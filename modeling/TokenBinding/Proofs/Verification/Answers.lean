import Mathlib.Logic.Function.Basic
import TokenBinding.Proofs.Verification.Schedule

/-!
# Answers that change

A resolver answers a token by its place and the address. The answers that a pass gets may also
depend on what it has asked before, on the time or on chance. That makes no difference: no token
asks for anything twice, so the answers that the tokens got, each at its own time, are those of one
resolver (`Engine.MayAsk.exists_resolver`).
-/

namespace TokenBinding

/-- Each token is answered as the answers were at some point on the way so far. -/
structure Resolver.DrawnFrom (resolver : Resolver) (answers : List Verification.Effect → Resolver)
    (asked : List Verification.Effect) : Prop where
  document : ∀ i, ∃ before, before <+: asked ∧ resolver.document i = (answers before).document i
  keys : ∀ i, ∃ before, before <+: asked ∧ resolver.keys i = (answers before).keys i

theorem Resolver.DrawnFrom.nil (answers : List Verification.Effect → Resolver) :
    (answers []).DrawnFrom answers [] where
  document _ := ⟨[], List.prefix_rfl, rfl⟩
  keys _ := ⟨[], List.prefix_rfl, rfl⟩

namespace Verification

namespace Stage

variable {resolver resolver' : Resolver} {i : Nat} {token : String}

/-- The answers that a token has got are those of the resolver. -/
def Fits (resolver : Resolver) (i : Nat) : Stage → Prop
  | previewed _ => True
  | asked _ => True
  | documented preview metadata =>
    resolver.document i preview.provider.discoveryUrl = .ok metadata
  | settled (.unroutable _ _) => True
  | settled (.noMetadata _ preview cause) =>
    resolver.document i preview.provider.discoveryUrl = .error cause
  | settled (.noKeys _ preview metadata cause) =>
    resolver.document i preview.provider.discoveryUrl = .ok metadata ∧
      resolver.keys i metadata.jwksUri = .error cause
  | settled (.resolved r) =>
    resolver.document i r.preview.provider.discoveryUrl = .ok r.metadata ∧
      resolver.keys i r.metadata.jwksUri = .ok r.keys

/-- A step can be made with the answers that the token has got behind it. A resolver that fits the
stage after a step fits the one before it. -/
theorem next?_of_fits {resolver' : Resolver} {s s' : Stage} {effects : List Effect}
    (h : s.next? resolver' i token = some (effects, s')) (fits : s'.Fits resolver i) :
    s.Fits resolver i ∧ s.next? resolver i token = some (effects, s') := by
  cases s with
  | previewed preview => exact ⟨trivial, h⟩
  | asked preview =>
    refine ⟨trivial, ?_⟩
    cases document : resolver'.document i preview.provider.discoveryUrl
    all_goals
      simp only [next?, document] at h
      cases h
      simp only [Fits] at fits
      simp only [next?, fits]
  | documented preview metadata =>
    cases answer : resolver'.keys i metadata.jwksUri
    all_goals
      simp only [next?, answer] at h
      cases h
      obtain ⟨document, keys⟩ := fits
      exact ⟨document, by simp only [next?, keys]⟩
  | settled route => cases h

theorem fits_congr {s : Stage} (documents : resolver'.document i = resolver.document i)
    (keys : resolver'.keys i = resolver.keys i) (h : s.Fits resolver i) : s.Fits resolver' i := by
  cases s with
  | previewed preview => trivial
  | asked preview => trivial
  | documented preview metadata => simpa only [Fits, documents] using h
  | settled route =>
    cases route with
    | unroutable place cause => trivial
    | noMetadata place preview cause => simpa only [Fits, documents] using h
    | noKeys place preview metadata cause => simpa only [Fits, documents, keys] using h
    | resolved r => simpa only [Fits, documents, keys] using h

/-- The answer that a token gets in a step can be added to those that it has got. Only its own
answers change, so other tokens keep theirs. -/
theorem exists_fits_of_next? {s s' : Stage} {effects : List Effect}
    (h : s.next? resolver' i token = some (effects, s')) (fits : s.Fits resolver i) :
    ∃ documents keys, (documents = resolver.document i ∨ documents = resolver'.document i) ∧
      (keys = resolver.keys i ∨ keys = resolver'.keys i) ∧
      ∀ r : Resolver, r.document i = documents → r.keys i = keys → s'.Fits r i := by
  cases s with
  | previewed preview =>
    cases h
    exact ⟨_, _, .inl rfl, .inl rfl, fun _ _ _ => trivial⟩
  | asked preview =>
    refine ⟨resolver'.document i, _, .inr rfl, .inl rfl, fun r documents _ => ?_⟩
    cases document : resolver'.document i preview.provider.discoveryUrl
    all_goals
      simp only [next?, document] at h
      cases h
      simpa only [Fits, documents] using document
  | documented preview metadata =>
    refine ⟨resolver.document i, resolver'.keys i, .inl rfl, .inr rfl, fun r documents keys => ?_⟩
    have document : r.document i preview.provider.discoveryUrl = .ok metadata := by
      rw [documents]
      exact fits
    cases answer : resolver'.keys i metadata.jwksUri
    all_goals
      simp only [next?, answer] at h
      cases h
      exact ⟨document, by rw [keys, answer]⟩
  | settled route => cases h

end Stage

namespace Reached

variable {registry : Registry} {resolver : Resolver} {answers : List Effect → Resolver}
  {tokens : List String} {stages : List Stage} {asked : List Effect}

/-- Over a resolver that has the answers which the tokens got in the end, the same may happen. -/
theorem of_fits {answers : List Effect → Resolver}
    (h : Reached registry answers tokens stages asked)
    (fits : ∀ (i : Nat) (s : Stage), stages[i]? = some s → s.Fits resolver i) :
    Reached registry (fun _ => resolver) tokens stages asked := by
  induction h with
  | start => exact .start
  | @step stages asked effects i token s s' _ at_i stage move ih =>
    have bound : i < stages.length := (List.getElem?_eq_some_iff.mp stage).1
    obtain ⟨before, same⟩ := Stage.next?_of_fits move (fits i s' (List.getElem?_set_self bound))
    refine .step (ih fun j t here => ?_) at_i stage same
    by_cases own : i = j
    · subst own
      obtain rfl : t = s := Option.some.inj (here.symm.trans stage)
      exact before
    · exact fits j t ((List.getElem?_set_ne own).trans here)

/-- One more answer that was drawn leaves all answers drawn: the new one is from the requests up to
now, and any other is from the beginning of them that it was from before. -/
theorem exists_prefix_update {α : Type} {f : Nat → α} {g : List Effect → Nat → α}
    {effects : List Effect} {i : Nat} {a : α}
    (drawn : ∀ j, ∃ before, before <+: asked ∧ f j = g before j) (h : a = f i ∨ a = g asked i)
    (j : Nat) : ∃ before, before <+: asked ++ effects ∧ Function.update f i a j = g before j := by
  obtain ⟨before, sofar, old⟩ := drawn j
  by_cases own : j = i
  · subst own
    rw [Function.update_self]
    rcases h with rfl | rfl
    · exact ⟨before, sofar.trans (List.prefix_append _ _), old⟩
    · exact ⟨asked, List.prefix_append _ _, rfl⟩
  · rw [Function.update_of_ne own]
    exact ⟨before, sofar.trans (List.prefix_append _ _), old⟩

/-- There is a resolver with all the answers that the tokens got. A token asks for one document and
one key set at most, so no two of its answers can contradict each other. -/
theorem exists_fits (h : Reached registry answers tokens stages asked) :
    ∃ resolver : Resolver, resolver.DrawnFrom answers asked ∧
      ∀ (i : Nat) (s : Stage), stages[i]? = some s → s.Fits resolver i := by
  induction h with
  | start =>
    refine ⟨answers [], .nil answers, fun i s here => ?_⟩
    rw [List.getElem?_mapIdx, Option.map_eq_some_iff] at here
    obtain ⟨token, -, rfl⟩ := here
    unfold Stage.start
    cases Preview.ofToken registry token <;> trivial
  | @step stages asked effects i token s s' _ at_i stage move ih =>
    obtain ⟨resolver, drawn, fits⟩ := ih
    obtain ⟨documents, keys, ofDocuments, ofKeys, added⟩ :=
      Stage.exists_fits_of_next? move (fits i s stage)
    refine ⟨⟨Function.update resolver.document i documents, Function.update resolver.keys i keys⟩,
      ⟨exists_prefix_update drawn.document ofDocuments, exists_prefix_update drawn.keys ofKeys⟩,
      fun j t here => ?_⟩
    by_cases own : i = j
    · subst own
      have bound : i < stages.length := (List.getElem?_eq_some_iff.mp stage).1
      obtain rfl : s' = t := Option.some.inj ((List.getElem?_set_self bound).symm.trans here)
      exact added _ (Function.update_self ..) (Function.update_self ..)
    · have before := fits j t ((List.getElem?_set_ne own).symm.trans here)
      exact Stage.fits_congr (Function.update_of_ne (Ne.symm own) ..)
        (Function.update_of_ne (Ne.symm own) ..) before

end Reached

namespace Engine

variable {e : Engine} {b : Binder} {q : Request}

/-- What a pass asks when its answers change, it asks over a resolver that has the answers which it
got. -/
theorem MayAsk.exists_resolver {answers : List Effect → Resolver} {asked : List Effect}
    (h : e.MayAsk answers b q asked) (reach : b.Reachable e.digest) :
    ∃ resolver, resolver.DrawnFrom answers asked ∧
      ({ e with resolver := resolver } : Engine).MayAsk (fun _ => resolver) b q asked := by
  cases parsed : Bundle.parse q.wire with
  | error cause =>
    have none : asked = [] := h.malformed cause parsed
    subst none
    refine ⟨answers [], .nil answers, fun _ _ => rfl, fun bundle other => ?_⟩
    rw [parsed] at other
    cases other
  | ok bundle =>
    obtain ⟨stages, reached, settled⟩ := h.reached bundle parsed
    obtain ⟨resolver, drawn, fits⟩ := reached.exists_fits
    refine ⟨resolver, drawn, fun cause other => ?_, fun bundle' parsed' => ?_⟩
    · rw [parsed] at other
      cases other
    · obtain rfl : bundle = bundle' := Except.ok.inj (parsed.symm.trans parsed')
      refine ⟨stages, reached.of_fits fits, fun report => settled ?_⟩
      exact (exists_report_iff reach).mpr ((exists_report_iff (e := { e with resolver := resolver })
        reach).mp report)

end Engine

end Verification

end TokenBinding
