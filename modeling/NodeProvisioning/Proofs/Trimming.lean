import Mathlib.Data.List.DropRight
import NodeProvisioning.Text.Blank

/-!
# Outer blanks

Taking the outer blanks off a text is described here by what is left, not by how it is done.  What
is left stands in the text between blanks, and neither begins nor ends with one.  There is only one
such text, so this says all that there is to say about `Text.trim`.

## Main definitions

* `Text.IsInner` — what is left of a text without its outer blanks

## Main statements

* `Text.trim_eq_iff` — trimming leaves exactly that
* `Text.trim_eq_empty_iff` — nothing is left exactly of a text of blanks
-/

namespace NodeProvisioning.Text

/-- **What is left of a text** without its outer blanks: it stands between blanks, and has none at
either end. -/
structure IsInner (inner outer : List Char) : Prop where
  /-- Around it there are blanks only. -/
  between : ∃ before after, outer = before ++ inner ++ after ∧
    ∀ c ∈ before ++ after, isBlank c = true
  /-- It does not begin with a blank. -/
  head : ∀ c ∈ inner.head?, isBlank c = false
  /-- It does not end with a blank. -/
  last : ∀ c ∈ inner.getLast?, isBlank c = false

variable {inner outer cs : List Char}

theorem trimEnd_eq (cs : List Char) : trimEnd cs = cs.rdropWhile isBlank := rfl

/-! ## What trimming leaves -/

theorem isBlank_head_trimStart (cs : List Char) :
    ∀ c ∈ (trimStart cs).head?, isBlank c = false := by
  intro c first
  have := List.head?_dropWhile_not isBlank cs
  rw [trimStart] at first
  rw [first] at this
  simpa using this

theorem isBlank_getLast_trimEnd (cs : List Char) :
    ∀ c ∈ (trimEnd cs).getLast?, isBlank c = false := by
  intro c final
  obtain ⟨ne, rfl⟩ := List.mem_getLast?_eq_getLast final
  exact Bool.eq_false_iff.2 (List.rdropWhile_last_not isBlank cs ne)

/-- What stays at the front is there from the beginning. -/
theorem head?_trimEnd {c : Char} (first : c ∈ (trimEnd cs).head?) : c ∈ cs.head? := by
  obtain ⟨rest, whole⟩ := List.rdropWhile_prefix isBlank cs
  rw [trimEnd_eq] at first
  rw [← whole, List.head?_append, first]
  rfl

/-- **Trimming** leaves what stands between the outer blanks. -/
theorem isInner_trim (s : String) : IsInner (trim s).toList s.toList := by
  rw [trim, String.toList_ofList]
  refine ⟨⟨s.toList.takeWhile isBlank, (trimStart s.toList).rtakeWhile isBlank, ?_, ?_⟩,
    fun c first => isBlank_head_trimStart _ c (head?_trimEnd first), isBlank_getLast_trimEnd _⟩
  · rw [List.append_assoc, trimEnd_eq, List.rdropWhile_append_rtakeWhile, trimStart,
      List.takeWhile_append_dropWhile]
  · intro c mem
    rcases List.mem_append.1 mem with front | back
    · exact List.mem_takeWhile_imp front
    · exact List.mem_rtakeWhile_imp back

/-! ## There is only one inner text -/

theorem trimStart_append_of_blank {before : List Char} (blank : ∀ c ∈ before, isBlank c = true)
    (cs : List Char) : trimStart (before ++ cs) = trimStart cs :=
  List.dropWhile_append_of_pos blank

theorem trimEnd_append_of_blank {after : List Char} (blank : ∀ c ∈ after, isBlank c = true)
    (cs : List Char) : trimEnd (cs ++ after) = trimEnd cs := by
  have blank : ∀ c ∈ after.reverse, isBlank c = true := fun c mem =>
    blank c (List.mem_reverse.1 mem)
  rw [trimEnd, List.reverse_append, List.dropWhile_append_of_pos blank, ← trimEnd]

/-- Trimming a text leaves whatever is left of it without its outer blanks. -/
theorem IsInner.trim_eq (h : IsInner inner outer) : trimEnd (trimStart outer) = inner := by
  obtain ⟨⟨before, after, rfl, blank⟩, head, last⟩ := h
  have front : ∀ c ∈ before, isBlank c = true := fun c mem => blank c (List.mem_append_left _ mem)
  have back : ∀ c ∈ after, isBlank c = true := fun c mem => blank c (List.mem_append_right _ mem)
  rw [List.append_assoc, trimStart_append_of_blank front]
  cases inner with
  | nil =>
    have all : trimStart after = [] := List.dropWhile_eq_nil_iff.2 back
    rw [List.nil_append, all]
    rfl
  | cons c rest =>
    have stays : trimStart (c :: rest ++ after) = c :: rest ++ after :=
      List.dropWhile_cons_of_neg (by simp [head c rfl])
    rw [stays, trimEnd_append_of_blank back, trimEnd_eq, List.rdropWhile_eq_self_iff]
    intro ne
    simp [last _ (List.getLast?_eq_getLast_of_ne_nil ne)]

/-- **Trimming is described** by what it leaves. -/
theorem trim_eq_iff {s t : String} : trim s = t ↔ IsInner t.toList s.toList := by
  constructor
  · rintro rfl
    exact isInner_trim s
  · intro inner
    rw [trim, inner.trim_eq, String.ofList_toList]

/-- **Nothing is left** exactly of a text that has no other characters than blanks. -/
theorem trim_eq_empty_iff {s : String} : trim s = "" ↔ ∀ c ∈ s.toList, isBlank c = true := by
  rw [trim_eq_iff]
  constructor
  · rintro ⟨⟨before, after, whole, blank⟩, -, -⟩
    rw [whole]
    simpa using blank
  · intro blank
    exact ⟨⟨s.toList, [], by simp, by simpa using blank⟩, by simp, by simp⟩

/-- Something is left of any other text. -/
theorem trim_ne_empty_iff {s : String} : trim s ≠ "" ↔ ∃ c ∈ s.toList, isBlank c = false := by
  rw [ne_eq, trim_eq_empty_iff]
  simp

end NodeProvisioning.Text
