/-
Identities of environments.

Caches hold what they derived from an environment under its identity, so that two
environments of one identity had better answer alike.

* `Construction`, `Built`: the constructions of property sources, and the sources
  built so far with the supply their identities come from.
* `Built.make`, `Built.add`, `Built.ofList`: one construction, and constructions in
  turn.
* `Built.make_of_takes`, `make_of_copies`: a construction takes the next identity,
  or it makes one more hold on a source that is there.
* `Built.Numbered`, `Numbered.add`, `numbered_ofList`: the identities taken so far
  are numbered from one and each is held by one source; a construction keeps it so
  while the supply lasts.
* `Built.sound_identities`: sources of one identity answer alike, and a new
  identity is held by no source built before.
-/
import Mathlib.Data.List.Induction
import Mathlib.Tactic.Lemma
import Activation.Environment.Source

namespace Activation

namespace PropertySource

/-- Whether properties can be added to a source. -/
def isMap (source : PropertySource) : Bool := source.properties?.isSome

/-- Whether layers can be added to a source. -/
def isStack : PropertySource → Bool
  | .layered _ _ => true
  | _ => false

end PropertySource

/-- A construction of a property source. The sources it starts from are named by their places
among those that were built before it. -/
inductive Construction where
  | ofPairs (pairs : List (String × String))
  | extend (origin : Nat) (key value : String)
  | ofVariables
  | noLayers
  | addLayer (stack layer : Nat)
  /-- A copy of a source, or one more reference to it. -/
  | copy (origin : Nat)
deriving DecidableEq

/-- Whether a construction makes a source of its own. -/
def Construction.takes : Construction → Bool
  | .copy _ => false
  | _ => true

/-- The sources built so far, each for as long as anyone may hold it, and the supply that their
identities come from. -/
structure Built where
  sources : List PropertySource
  supply : IdentitySupply

namespace Built

/-- The source that a construction makes, and the supply behind it; none where the sources it names
are not there or are of another kind. -/
def make (built : Built) : Construction → Option (PropertySource × IdentitySupply)
  | .ofPairs pairs => some (PropertySource.ofPairs pairs built.supply)
  | .extend origin key value =>
    ((built.sources[origin]?).filter PropertySource.isMap).map fun source =>
      source.extend key value built.supply
  | .ofVariables => some (PropertySource.ofVariables built.supply)
  | .noLayers => some (PropertySource.noLayers built.supply)
  | .addLayer stack layer =>
    ((built.sources[stack]?).filter PropertySource.isStack).bind fun stack =>
      (built.sources[layer]?).map fun layer => stack.addLayer layer built.supply
  | .copy origin => (built.sources[origin]?).map fun source => (source, built.supply)

/-- What is built after one more construction, if it can be done. -/
def add (built : Built) (construction : Construction) : Built :=
  match built.make construction with
  | none => built
  | some (source, supply) => ⟨built.sources ++ [source], supply⟩

/-- What is built by constructions in turn. -/
def ofList (constructions : List Construction) : Built :=
  constructions.foldl add ⟨[], .initial⟩

variable {built : Built} {construction : Construction} {source : PropertySource}
  {supply : IdentitySupply} {taken : Nat}

/-- A construction of a new source gives it the next identity. -/
lemma make_of_takes (h : construction.takes = true)
    (hmake : built.make construction = some (source, supply)) :
    (source.identity, supply) = built.supply.take := by
  cases construction with
  | ofPairs pairs =>
      obtain ⟨rfl, rfl⟩ := Prod.mk.inj (Option.some.inj hmake)
      rfl
  | extend origin key value =>
      obtain ⟨map, -, hextend⟩ := Option.map_eq_some_iff.mp hmake
      obtain ⟨rfl, rfl⟩ := Prod.mk.inj hextend
      rfl
  | ofVariables =>
      obtain ⟨rfl, rfl⟩ := Prod.mk.inj (Option.some.inj hmake)
      rfl
  | noLayers =>
      obtain ⟨rfl, rfl⟩ := Prod.mk.inj (Option.some.inj hmake)
      rfl
  | addLayer stack layer =>
      obtain ⟨below, -, hlayer⟩ := Option.bind_eq_some_iff.mp hmake
      obtain ⟨layer, -, hadd⟩ := Option.map_eq_some_iff.mp hlayer
      obtain ⟨rfl, rfl⟩ := Prod.mk.inj hadd
      rfl
  | copy origin => cases h

/-- A copy is a source that is there, and takes no identity. -/
lemma make_of_copies (h : construction.takes = false)
    (hmake : built.make construction = some (source, supply)) :
    source ∈ built.sources ∧ supply = built.supply := by
  cases construction with
  | copy origin =>
      obtain ⟨held, hheld, hcopy⟩ := Option.map_eq_some_iff.mp hmake
      obtain ⟨rfl, rfl⟩ := Prod.mk.inj hcopy
      exact ⟨List.mem_of_getElem? hheld, rfl⟩
  | _ => cases h

/-- So many identities are taken: they are numbered from one, the supply stands at the next number,
and no two sources share an identity without being the same. -/
structure Numbered (built : Built) (taken : Nat) : Prop where
  next : built.supply.next = UInt64.ofNat (taken + 1)
  le_taken : ∀ source ∈ built.sources, source.identity.serial.toNat ≤ taken
  alike : ∀ a ∈ built.sources, ∀ b ∈ built.sources, a.identity = b.identity → a = b

namespace Numbered

/-- The next identity is held by no source while the supply lasts. -/
lemma fresh (h : built.Numbered taken) (hlast : taken + 1 < UInt64.size) (old : PropertySource)
    (hold : old ∈ built.sources) : old.identity ≠ built.supply.take.1 := by
  intro heq
  have hserial : old.identity.serial.toNat = taken + 1 :=
    calc old.identity.serial.toNat = built.supply.next.toNat := by rw [heq]; rfl
      _ = (UInt64.ofNat (taken + 1)).toNat := by rw [h.next]
      _ = taken + 1 := UInt64.toNat_ofNat_of_lt hlast
  have hle : old.identity.serial.toNat ≤ taken := h.le_taken old hold
  omega

/-- A source of the next identity goes with those that are there. -/
lemma add_fresh (h : built.Numbered taken) (hlast : taken + 1 < UInt64.size)
    (hsource : (source.identity, supply) = built.supply.take) :
    Numbered ⟨built.sources ++ [source], supply⟩ (taken + 1) := by
  obtain ⟨hidentity, hsupply⟩ := Prod.mk.inj hsource
  have hfresh : ∀ old ∈ built.sources, old.identity ≠ source.identity := fun old hold => by
    rw [hidentity]
    exact h.fresh hlast old hold
  have hnext : built.supply.next + 1 = UInt64.ofNat (taken + 1 + 1) := by
    rw [h.next, UInt64.ofNat_add (taken + 1) 1]
    rfl
  refine ⟨hsupply ▸ hnext, fun other hother => ?_, fun a ha b hb hab => ?_⟩
  · rcases List.mem_append.mp hother with hold | hnew
    · exact Nat.le_succ_of_le (h.le_taken other hold)
    · have hserial : source.identity.serial.toNat = taken + 1 := by
        rw [hidentity]
        exact (congrArg UInt64.toNat h.next).trans (UInt64.toNat_ofNat_of_lt hlast)
      exact Nat.le_of_eq (List.mem_singleton.mp hnew ▸ hserial)
  · rcases List.mem_append.mp ha with hold | hnew <;>
      rcases List.mem_append.mp hb with hold' | hnew'
    · exact h.alike a hold b hold' hab
    · exact absurd (List.mem_singleton.mp hnew' ▸ hab) (hfresh a hold)
    · exact absurd (List.mem_singleton.mp hnew ▸ hab).symm (hfresh b hold')
    · rw [List.mem_singleton.mp hnew, List.mem_singleton.mp hnew']

/-- One more hold on a source changes nothing. -/
lemma add_held (h : built.Numbered taken) (hheld : source ∈ built.sources) :
    Numbered ⟨built.sources ++ [source], built.supply⟩ taken := by
  have hmem : ∀ other, other ∈ built.sources ++ [source] ↔ other ∈ built.sources := by
    intro other
    rw [List.mem_append, List.mem_singleton]
    constructor
    · rintro (hother | rfl)
      · exact hother
      · exact hheld
    · exact Or.inl
  refine ⟨h.next, fun other hother => h.le_taken other ((hmem other).mp hother), ?_⟩
  intro a ha b hb
  exact h.alike a ((hmem a).mp ha) b ((hmem b).mp hb)

/-- **A construction** keeps the identities numbered while the supply lasts. -/
lemma add (h : built.Numbered taken) (hlast : taken + 1 < UInt64.size)
    (construction : Construction) :
    ∃ now, now ≤ taken + 1 ∧ (built.add construction).Numbered now := by
  rw [Built.add]
  cases hmake : built.make construction with
  | none => exact ⟨taken, Nat.le_succ taken, h⟩
  | some made =>
      obtain ⟨source, supply⟩ := made
      cases htakes : construction.takes with
      | true => exact ⟨taken + 1, Nat.le_refl _, h.add_fresh hlast (make_of_takes htakes hmake)⟩
      | false =>
          obtain ⟨hheld, rfl⟩ := make_of_copies htakes hmake
          exact ⟨taken, Nat.le_succ taken, h.add_held hheld⟩

end Numbered

/-- **Constructions in turn**, fewer than there are identities, leave the identities numbered. -/
lemma numbered_ofList (constructions : List Construction)
    (h : constructions.length < UInt64.size) :
    ∃ taken, taken ≤ constructions.length ∧ (ofList constructions).Numbered taken := by
  induction constructions using List.reverseRecOn with
  | nil =>
      refine ⟨0, Nat.le_refl 0, rfl, fun source hsource => ?_, fun a ha => ?_⟩
      · exact absurd hsource List.not_mem_nil
      · exact absurd ha List.not_mem_nil
  | append_singleton constructions construction ih =>
      rw [List.length_append, List.length_singleton] at h ⊢
      obtain ⟨taken, hle, hnumbered⟩ := ih (by omega)
      obtain ⟨now, hnow, hadd⟩ := hnumbered.add (by omega) construction
      refine ⟨now, by omega, ?_⟩
      rw [ofList, List.foldl_append]
      exact hadd

/-- **Identities are sound**: of fewer constructions than there are identities, whichever they are
and however deep they nest, sources of one identity answer every question alike, and a source made
anew has an identity that no source built before it holds. -/
theorem sound_identities (constructions : List Construction)
    (h : constructions.length < UInt64.size) (vars : Variables) :
    (∀ a ∈ (ofList constructions).sources, ∀ b ∈ (ofList constructions).sources,
      (a.environment vars).identity = (b.environment vars).identity → ∀ key,
        (a.environment vars).property key = (b.environment vars).property key ∧
        (a.environment vars).boolean key = (b.environment vars).boolean key ∧
        (a.environment vars).entries key = (b.environment vars).entries key) ∧
    ∀ earlier construction later source supply,
      constructions = earlier ++ construction :: later → construction.takes = true →
        (ofList earlier).make construction = some (source, supply) →
          ∀ old ∈ (ofList earlier).sources,
            (old.environment vars).identity ≠ (source.environment vars).identity := by
  constructor
  · intro a ha b hb hab key
    obtain ⟨taken, -, hnumbered⟩ := numbered_ofList constructions h
    obtain rfl : a = b := hnumbered.alike a ha b hb hab
    exact ⟨rfl, rfl, rfl⟩
  · rintro earlier construction later source supply rfl htakes hmake old hold
    rw [List.length_append, List.length_cons] at h
    obtain ⟨taken, hle, hnumbered⟩ := numbered_ofList earlier (by omega)
    have hidentity : source.identity = (ofList earlier).supply.take.1 :=
      congrArg Prod.fst (make_of_takes htakes hmake)
    have hfresh : old.identity ≠ (ofList earlier).supply.take.1 :=
      hnumbered.fresh (by omega) old hold
    rw [← hidentity] at hfresh
    exact hfresh

/-- A map, a copy of it and one with another value; a stack that takes two of them for its layers,
one after the other; and the process variables, shared. -/
def nested : List Construction :=
  [.ofPairs [("a", "1")], .copy 0, .extend 1 "a" "2", .noLayers, .addLayer 3 2, .addLayer 4 0,
    .ofVariables, .copy 6]

theorem sound_identities_nested :
    nested.length < UInt64.size ∧
    (ofList nested).sources.map PropertySource.identity =
      [⟨1⟩, ⟨1⟩, ⟨2⟩, ⟨3⟩, ⟨4⟩, ⟨5⟩, ⟨6⟩, ⟨6⟩] ∧
    (∀ a ∈ (ofList nested).sources, ∀ b ∈ (ofList nested).sources,
      (a.environment .empty).identity = (b.environment .empty).identity → ∀ key,
        (a.environment .empty).property key = (b.environment .empty).property key ∧
        (a.environment .empty).boolean key = (b.environment .empty).boolean key ∧
        (a.environment .empty).entries key = (b.environment .empty).entries key) ∧
    ∃ source supply,
      (ofList (nested.take 5)).make (.addLayer 4 0) = some (source, supply) ∧
        ∀ old ∈ (ofList (nested.take 5)).sources,
          (old.environment .empty).identity ≠ (source.environment .empty).identity := by
  have hlength : nested.length < UInt64.size := by decide
  obtain ⟨halike, hfresh⟩ := sound_identities nested hlength .empty
  exact ⟨hlength, by decide +kernel, halike, _, _, rfl,
    hfresh (nested.take 5) (.addLayer 4 0) (nested.drop 6) _ _ rfl rfl rfl⟩

end Built

end Activation
