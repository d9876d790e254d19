import Mathlib.Data.List.TakeWhile
import TraceWeave.Text.Blank

/-! Texts and the blanks around them.

`Trims` says what a trimmed text is, from the text that it was trimmed from, and `trim` finds just
that (`trim_eq_iff`). So blanks around a text do not change what is left of it (`trim_padded`). -/

namespace TraceWeave.Text

structure Unpadded (text : String) : Prop where
  first : ∀ c ∈ text.toList.head?, isBlank c = false
  last : ∀ c ∈ text.toList.getLast?, isBlank c = false

/-- What is left of a text when the blanks at both ends are taken away. -/
structure Trims (text core : String) : Prop where
  unpadded : Unpadded core
  within : ∃ before after : List Char, (∀ c ∈ before ++ after, isBlank c = true) ∧
    text.toList = before ++ (core.toList ++ after)

variable {text core : String}

theorem dropWhile_eq_self {text : List Char} (h : ∀ c ∈ text.head?, isBlank c = false) :
    text.dropWhile isBlank = text := by
  cases text with
  | nil => rfl
  | cons c text => rw [List.dropWhile_cons, h c rfl]; rfl

theorem head?_dropWhile (text : List Char) :
    ∀ c ∈ (text.dropWhile isBlank).head?, isBlank c = false := by
  intro c first
  have stop := List.head?_dropWhile_not isBlank text
  rw [first] at stop
  simpa using stop

theorem trimChars_padded {before core after : List Char}
    (blank : ∀ c ∈ before ++ after, isBlank c = true)
    (first : ∀ c ∈ core.head?, isBlank c = false) (last : ∀ c ∈ core.getLast?, isBlank c = false) :
    trimChars (before ++ (core ++ after)) = core := by
  obtain ⟨front, back⟩ := List.forall_mem_append.mp blank
  rw [trimChars, List.dropWhile_append_of_pos front]
  cases core with
  | nil =>
    have none : after.dropWhile isBlank = [] := List.dropWhile_eq_nil_iff.mpr back
    rw [List.nil_append, none]
    rfl
  | cons c core =>
    have start : (c :: core ++ after).dropWhile isBlank = c :: core ++ after :=
      dropWhile_eq_self first
    have stop : ∀ d ∈ (c :: core).reverse.head?, isBlank d = false := by
      rw [List.head?_reverse]
      exact last
    rw [start, List.reverse_append,
      List.dropWhile_append_of_pos fun d mem => back d (List.mem_reverse.mp mem),
      dropWhile_eq_self stop, List.reverse_reverse]

theorem trim_of_trims (h : Trims text core) : trim text = core := by
  obtain ⟨before, after, blank, split⟩ := h.within
  rw [trim, split, trimChars_padded blank h.unpadded.first h.unpadded.last, String.ofList_toList]

theorem trims_trim (text : String) : Trims text (trim text) := by
  have front : ∀ c ∈ text.toList.takeWhile isBlank, isBlank c = true :=
    List.all_eq_true.mp List.all_takeWhile
  have first := head?_dropWhile text.toList
  have split := List.takeWhile_append_dropWhile (p := isBlank) (l := text.toList)
  generalize text.toList.takeWhile isBlank = before at front split
  generalize inner : text.toList.dropWhile isBlank = rest at first split
  have back : ∀ c ∈ rest.reverse.takeWhile isBlank, isBlank c = true :=
    List.all_eq_true.mp List.all_takeWhile
  have last := head?_dropWhile rest.reverse
  have split' := List.takeWhile_append_dropWhile (p := isBlank) (l := rest.reverse)
  generalize rest.reverse.takeWhile isBlank = after at back split'
  generalize inner' : rest.reverse.dropWhile isBlank = core at last split'
  have found : (trim text).toList = core.reverse := by
    rw [trim, String.toList_ofList, trimChars, inner, inner']
  have whole : rest = core.reverse ++ after.reverse := by
    rw [← List.reverse_append, split', List.reverse_reverse]
  refine ⟨⟨fun c mem => first c ?_, fun c mem => last c ?_⟩, before, after.reverse, ?_, ?_⟩
  · rw [found] at mem
    rw [whole, List.head?_append, mem]
    rfl
  · rwa [found, List.getLast?_reverse] at mem
  · rw [List.forall_mem_append]
    exact ⟨front, fun c mem => back c (List.mem_reverse.mp mem)⟩
  · rw [← split, whole, found]

theorem trim_eq_iff : trim text = core ↔ Trims text core :=
  ⟨fun same => same ▸ trims_trim text, trim_of_trims⟩

theorem trim_of_unpadded (h : Unpadded text) : trim text = text :=
  trim_of_trims ⟨h, [], [], nofun, by rw [List.nil_append, List.append_nil]⟩

theorem unpadded_of_forall (h : ∀ c ∈ text.toList, isBlank c = false) : Unpadded text :=
  ⟨fun c first => h c (List.mem_of_mem_head? first),
    fun c last => h c (List.mem_of_mem_getLast? last)⟩

theorem trim_padded {before after : List Char} (blank : ∀ c ∈ before ++ after, isBlank c = true)
    (text : String) : trim (String.ofList (before ++ (text.toList ++ after))) = trim text := by
  obtain ⟨unpadded, front, back, inner, split⟩ := trims_trim text
  refine trim_of_trims ⟨unpadded, before ++ front, back ++ after, ?_, ?_⟩
  · rw [List.forall_mem_append] at blank inner
    simp only [List.forall_mem_append]
    exact ⟨⟨blank.1, inner.1⟩, inner.2, blank.2⟩
  · rw [String.toList_ofList, split]
    simp only [List.append_assoc]

end TraceWeave.Text
