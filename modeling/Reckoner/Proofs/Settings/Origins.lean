import Mathlib.Data.List.Basic
import Mathlib.Data.List.Induction
import Mathlib.Data.List.TakeWhile
import Reckoner.Settings.Origins

/-!
# Which origins are listed

Origins are looked at one after another, and the list grows at its end. `Lists` is what is true of it
after some of them: it has the clean forms of those that were not empty, each once, in the order in
which they came up first.

An origin is passed over if it is empty as it is spelled. One that is made of slashes is not, and its
clean form is empty. So the list has the empty origin exactly if there is one of those, and only then
does it change when it is resolved again, `resolved_in_order`.
-/

namespace Reckoner

/-! ## Characters at the end -/

namespace Text

variable {c : Char} {text : List Char}

theorem getLast?_dropEnd (c : Char) (text : List Char) : (dropEnd c text).getLast? ≠ some c := by
  intro last
  have stays := List.head?_dropWhile_not (· == c) text.reverse
  rw [dropEnd, List.getLast?_reverse] at last
  simp [last] at stays

theorem exists_eq_dropEnd_append (c : Char) (text : List Char) :
    ∃ n, text = dropEnd c text ++ List.replicate n c := by
  refine ⟨(text.reverse.takeWhile (· == c)).length, ?_⟩
  have run : text.reverse.takeWhile (· == c) =
      List.replicate (text.reverse.takeWhile (· == c)).length c := by
    apply List.eq_replicate_of_mem
    intro d member
    simpa using List.mem_takeWhile_imp member
  apply List.reverse_injective
  calc text.reverse
      = text.reverse.takeWhile (· == c) ++ text.reverse.dropWhile (· == c) := by
        rw [List.takeWhile_append_dropWhile]
    _ = (dropEnd c text ++ List.replicate (text.reverse.takeWhile (· == c)).length c).reverse := by
        rw [List.reverse_append, List.reverse_replicate, ← run, dropEnd, List.reverse_reverse]

theorem dropEnd_append_replicate (last : text.getLast? ≠ some c) (n : Nat) :
    dropEnd c (text ++ List.replicate n c) = text := by
  have stays : text.reverse.dropWhile (· == c) = text.reverse := by
    rw [← List.head?_reverse] at last
    cases reversed : text.reverse with
    | nil => rfl
    | cons d rest =>
      rw [reversed] at last
      have other : d ≠ c := by simpa using last
      simp [other]
  have dropped : ((text ++ List.replicate n c).reverse).dropWhile (· == c) = text.reverse := by
    rw [List.reverse_append, List.reverse_replicate, List.dropWhile_append_of_pos (by simp), stays]
  rw [dropEnd, dropped, List.reverse_reverse]

end Text

namespace Settings

/-! ## Clean forms -/

/-- A text is an origin but for the slashes at its end. -/
def IsForm (origin clean : String) : Prop :=
  clean.toList.getLast? ≠ some '/' ∧ ∃ n, origin.toList = clean.toList ++ List.replicate n '/'

theorem isForm_iff {origin clean : String} : IsForm origin clean ↔ cleanOrigin origin = clean := by
  constructor
  · rintro ⟨last, n, spelled⟩
    rw [cleanOrigin, spelled, Text.dropEnd_append_replicate last, String.ofList_toList]
  · rintro rfl
    simp only [IsForm, cleanOrigin, String.toList_ofList]
    exact ⟨Text.getLast?_dropEnd _ _, Text.exists_eq_dropEnd_append _ _⟩

theorem cleanOrigin_of_getLast? {origin : String} (last : origin.toList.getLast? ≠ some '/') :
    cleanOrigin origin = origin :=
  isForm_iff.1 ⟨last, 0, by simp⟩

/-- Nothing is left of an origin that is made of slashes. -/
theorem cleanOrigin_eq_empty {origin : String} :
    cleanOrigin origin = "" ↔ ∀ c ∈ origin.toList, c = '/' := by
  rw [← isForm_iff]
  constructor
  · rintro ⟨_, n, spelled⟩ c member
    rw [spelled] at member
    simpa using List.eq_of_mem_replicate (by simpa using member)
  · intro slashes
    exact ⟨by simp, origin.toList.length, by simpa using List.eq_replicate_of_mem slashes⟩

/-! ## Lists that grow -/

/-- The clean forms of the origins that are not empty. -/
def forms (origins : List String) : List String :=
  (origins.filter (· ≠ "")).map cleanOrigin

/-- What is listed after some origins. -/
structure Lists (origins known : List String) : Prop where
  mem_iff : ∀ clean, clean ∈ known ↔ clean ∈ forms origins
  ordered : known.Pairwise fun a b => (forms origins).idxOf a < (forms origins).idxOf b

theorem forms_concat (origins : List String) (origin : String) :
    forms (origins ++ [origin]) =
      forms origins ++ if origin = "" then [] else [cleanOrigin origin] := by
  by_cases empty : origin = ""
  · simp [forms, empty]
  · simp [forms, empty]

theorem Lists.add {origins known : List String} (lists : Lists origins known) (origin : String) :
    Lists (origins ++ [origin]) (addOrigin known origin) := by
  have kept {more : List String} : known.Pairwise fun a b =>
      (forms origins ++ more).idxOf a < (forms origins ++ more).idxOf b := by
    refine lists.ordered.imp_of_mem fun {a b} memberA memberB before => ?_
    rwa [List.idxOf_append_of_mem ((lists.mem_iff a).1 memberA),
      List.idxOf_append_of_mem ((lists.mem_iff b).1 memberB)]
  by_cases empty : origin = ""
  · have same : forms (origins ++ [origin]) = forms origins := by simp [forms_concat, empty]
    have unchanged : addOrigin known origin = known := by simp [addOrigin, empty]
    rw [unchanged]
    exact ⟨same ▸ lists.mem_iff, same ▸ lists.ordered⟩
  · have longer : forms (origins ++ [origin]) = forms origins ++ [cleanOrigin origin] := by
      simp [forms_concat, empty]
    by_cases listed : cleanOrigin origin ∈ known
    · have unchanged : addOrigin known origin = known := by simp [addOrigin, listed]
      rw [unchanged]
      refine ⟨fun clean => ?_, longer ▸ kept⟩
      rw [longer, List.mem_append, List.mem_singleton, ← lists.mem_iff]
      constructor
      · exact Or.inl
      · rintro (member | rfl)
        · exact member
        · exact listed
    · have grown : addOrigin known origin = known ++ [cleanOrigin origin] := by
        simp [addOrigin, empty, listed]
      rw [grown]
      refine ⟨fun clean => ?_, ?_⟩
      · rw [longer, List.mem_append, List.mem_append, lists.mem_iff]
      · rw [longer]
        refine List.pairwise_append.2 ⟨kept, by simp, ?_⟩
        -- What is new comes up behind all that came up before.
        intro a member b new
        obtain rfl := List.mem_singleton.1 new
        have member := (lists.mem_iff a).1 member
        rw [List.idxOf_append_of_mem member,
          List.idxOf_append_of_notMem (mt (lists.mem_iff _).2 listed)]
        exact Nat.lt_add_right _ (List.idxOf_lt_length_of_mem member)

theorem lists_foldl (origins : List String) : Lists origins (origins.foldl addOrigin []) := by
  induction origins using List.reverseRecOn with
  | nil => exact ⟨fun _ => Iff.rfl, .nil⟩
  | append_singleton origins origin ih =>
    rw [List.foldl_concat]
    exact ih.add origin

/-- A list of clean origins that are all different loses nothing but the empty one. -/
theorem foldl_addOrigin_of_clean {origins : List String} (nodup : origins.Nodup)
    (clean : ∀ origin ∈ origins, cleanOrigin origin = origin) :
    origins.foldl addOrigin [] = origins.filter (· ≠ "") := by
  induction origins using List.reverseRecOn with
  | nil => rfl
  | append_singleton origins origin ih =>
    obtain ⟨nodup, _, apart⟩ := List.nodup_append.1 nodup
    have new : origin ∉ origins := fun member => apart _ member _ (by simp) rfl
    rw [List.foldl_concat, ih nodup fun other member => clean other (by simp [member])]
    by_cases empty : origin = ""
    · simp [addOrigin, empty]
    · simp [addOrigin, empty, new, clean origin (by simp)]

/-! ## Main result -/

/-- The origins that are listed are the clean forms of those that are not empty, each once and in the
order in which they come up, the added origin last. One of them is empty exactly if an origin is made
of slashes, and only then does the list change when it is resolved again. -/
theorem resolved_in_order (origins : List String) (frontend : Option String) :
    let all := origins ++ frontend.toList
    let resolved := resolveOrigins origins frontend
    resolved.Nodup ∧
    (∀ clean ∈ resolved, clean.toList.getLast? ≠ some '/') ∧
    ("" ∈ resolved ↔ ∃ origin ∈ all, origin ≠ "" ∧ ∀ c ∈ origin.toList, c = '/') ∧
    (∀ clean, clean ∈ resolved ↔ ∃ origin ∈ all, origin ≠ "" ∧ IsForm origin clean) ∧
    (resolved.Pairwise fun a b => (forms all).idxOf a < (forms all).idxOf b) ∧
    resolveOrigins resolved none = resolved.filter (· ≠ "") ∧
    (resolveOrigins resolved none = resolved ↔ "" ∉ resolved) := by
  intro all resolved
  have lists : Lists all resolved := lists_foldl all
  have nodup : resolved.Nodup := nodup_resolveOrigins origins frontend
  have member (clean : String) :
      clean ∈ resolved ↔ ∃ origin ∈ all, origin ≠ "" ∧ IsForm origin clean := by
    rw [lists.mem_iff]
    simp [forms, isForm_iff, and_assoc]
  have clean (form : String) (listed : form ∈ resolved) : form.toList.getLast? ≠ some '/' := by
    obtain ⟨_, _, _, isForm⟩ := (member form).1 listed
    exact isForm.1
  have again : resolveOrigins resolved none = resolved.filter (· ≠ "") := by
    rw [resolveOrigins, Option.toList_none, List.append_nil]
    exact foldl_addOrigin_of_clean nodup fun form listed =>
      cleanOrigin_of_getLast? (clean form listed)
  refine ⟨nodup, clean, ?_, member, lists.ordered, again, ?_⟩
  · simp only [member, isForm_iff, cleanOrigin_eq_empty]
  · rw [again, List.filter_eq_self]
    constructor
    · intro nonempty listed
      simpa using nonempty "" listed
    · intro absent form listed
      simpa using ne_of_mem_of_not_mem listed absent

/-- Spellings of one origin, one of slashes only and an empty one. -/
theorem resolved_in_order_of_spellings :
    let resolved := resolveOrigins ["a//", "//", "b", "", "a"] (some "b/")
    resolved = ["a", "", "b"] ∧ "a".toList.getLast? ≠ some '/' ∧
      resolveOrigins resolved none = ["a", "b"] := by
  intro resolved
  have computed : resolved = ["a", "", "b"] := by decide
  obtain ⟨_, clean, _, _, _, again, _⟩ :=
    resolved_in_order ["a//", "//", "b", "", "a"] (some "b/")
  refine ⟨computed, clean "a" ?_, again.trans ?_⟩
  · show "a" ∈ resolved
    simp [computed]
  · show resolved.filter (· ≠ "") = _
    simp [computed]

/-- An origin that is made of a slash is listed as an empty one, which is gone when the list is
resolved again. -/
theorem slash_listed_as_empty :
    "" ∈ resolveOrigins ["/"] none ∧
      resolveOrigins (resolveOrigins ["/"] none) none ≠ resolveOrigins ["/"] none := by
  decide

end Settings

end Reckoner
