import Reckoner.Text.Blank

/-!
# Origins

The origins from which pages may use the service. They are configured in a list, and one more can be
added; one origin may be spelled with any number of slashes at its end.
-/

namespace Reckoner.Settings

/-- An origin without the slashes at its end. -/
def cleanOrigin (origin : String) : String :=
  String.ofList (Text.dropEnd '/' origin.toList)

/-- Adds an origin at the end, unless it is empty or already there. -/
def addOrigin (known : List String) (origin : String) : List String :=
  if origin = "" ∨ cleanOrigin origin ∈ known then known else known ++ [cleanOrigin origin]

/-- The origins that are configured, each in its clean spelling and once, in the order in which they
first come up. -/
def resolveOrigins (origins : List String) (frontend : Option String) : List String :=
  (origins ++ frontend.toList).foldl addOrigin []

theorem nodup_addOrigin {known : List String} {origin : String} (h : known.Nodup) :
    (addOrigin known origin).Nodup := by
  unfold addOrigin
  split
  · exact h
  · rename_i hn
    refine List.nodup_append.2 ⟨h, by simp, ?_⟩
    intro a ha b hb
    cases List.mem_singleton.1 hb
    rintro rfl
    exact hn (Or.inr ha)

theorem nodup_resolveOrigins (origins : List String) (frontend : Option String) :
    (resolveOrigins origins frontend).Nodup := by
  suffices h : ∀ (all known : List String), known.Nodup → (all.foldl addOrigin known).Nodup from
    h _ [] List.nodup_nil
  intro all
  induction all with
  | nil => exact fun _ h => h
  | cons origin all ih => exact fun known h => ih _ (nodup_addOrigin h)

end Reckoner.Settings
