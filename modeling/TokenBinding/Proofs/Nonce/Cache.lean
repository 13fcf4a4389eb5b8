import TokenBinding.Nonce.Binder

/-!
# The binder's answers are those of no cache at all

A binder's contents are private to it: an entry gets there by `Binder.insert` only, and what is put
in is the stretched hash of the entry's own key. `Binder.Reachable` is that rule as an inductive
predicate, whoever inserts and in whatever order, so it covers a binder shared between passes and
sessions.

In every reachable binder an entry is the hash of its key (`Reachable.entry_eq`), and therefore the
hash, the compound nonce and the verdict on a claim are what they would be without the binder
(`hashFor_fst`, `bind_fst`, `check_fst`). Each of them leaves a reachable binder behind.
-/

namespace TokenBinding.Binder

/-- The contents that a binder can come to have. -/
inductive Reachable (H : Digest) : Binder → Prop
  | empty : Reachable H {}
  | insert {b : Binder} (f : Fingerprint) (s : Salt) :
      Reachable H b → Reachable H (b.insert f s (stretch H f.bytes s.bytes))

variable {H : Digest} {b : Binder}

/-- What is kept for a key is the hash of that key. -/
theorem Reachable.entry_eq (h : b.Reachable H) : ∀ e ∈ b.entries, e.2 = stretch H e.1.1 e.1.2 := by
  induction h with
  | empty => intro e mem; cases mem
  | @insert b f s _ ih =>
    intro e mem
    simp only [Binder.insert] at mem
    rcases List.mem_cons.mp mem with rfl | old
    · rfl
    · split at old
      · cases old
      · exact ih e (List.mem_filter.mp old).1

/-- There is one entry for a key. -/
theorem Reachable.nodup_keys (h : b.Reachable H) : (b.entries.map Prod.fst).Nodup := by
  induction h with
  | empty => exact List.nodup_nil
  | @insert b f s _ ih =>
    simp only [Binder.insert, List.map_cons, List.nodup_cons]
    split
    · exact ⟨List.not_mem_nil, List.nodup_nil⟩
    · refine ⟨?_, ih.sublist (List.filter_sublist.map _)⟩
      intro mem
      obtain ⟨e, kept, same⟩ := List.mem_map.mp mem
      exact of_decide_eq_true (List.mem_filter.mp kept).2 same

/-- No insertion makes a binder larger than its capacity. -/
theorem Reachable.size_le (h : b.Reachable H) : b.size ≤ capacity := by
  induction h with
  | empty => exact Nat.zero_le _
  | @insert b f s _ ih =>
    unfold size Binder.insert
    split
    · show 1 ≤ capacity
      decide
    · next room =>
      have fewer := List.length_filter_le (fun e => e.1 ≠ (f.bytes, s.bytes)) b.entries
      unfold size at room
      show (b.entries.filter _).length + 1 ≤ capacity
      omega

/-- What is found in a cache that can be reached is the stretch of what it is found for. -/
theorem Reachable.lookup_eq {f : Fingerprint} {s : Salt} {hash : FingerprintHash}
    (h : b.Reachable H) (found : b.lookup f s = some hash) : hash = stretch H f.bytes s.bytes := by
  obtain ⟨before, after, entries, -⟩ := List.lookup_eq_some_iff.mp found
  exact h.entry_eq ((f.bytes, s.bytes), hash) (by rw [entries]; simp)

/-- The hash that a binder gives is computed as if it kept none. -/
theorem hashFor_fst (h : b.Reachable H) (f : Fingerprint) (s : Salt) :
    (b.hashFor H f s).1 = stretch H f.bytes s.bytes := by
  cases found : b.lookup f s with
  | some hash => simp only [hashFor, found]; exact h.lookup_eq found
  | none => simp only [hashFor, found]

theorem hashFor_snd_reachable (h : b.Reachable H) (f : Fingerprint) (s : Salt) :
    (b.hashFor H f s).2.Reachable H := by
  cases found : b.lookup f s with
  | some hash => simp only [hashFor, found]; exact h
  | none => simp only [hashFor, found]; exact h.insert f s

/-- A compound nonce carries the stretched hash. -/
theorem bind_fst (h : b.Reachable H) (t : TrueNonce) (f : Fingerprint) (s : Salt) :
    (b.bind H t f s).1 = ⟨t, stretch H f.bytes s.bytes⟩ := by
  simp only [Binder.bind, hashFor_fst h]

theorem bind_snd_reachable (h : b.Reachable H) (t : TrueNonce) (f : Fingerprint) (s : Salt) :
    (b.bind H t f s).2.Reachable H :=
  hashFor_snd_reachable h f s

/-- The verdict on a claim without a binder: it must be there, be a compound nonce, and carry the
stretched hash. -/
def verdict (H : Digest) (claim : Option String) (f : Fingerprint) (s : Salt) :
    Except NonceError Unit :=
  match claim with
  | none => .error .missing
  | some text =>
    match CompoundNonce.parse text with
    | .error e => .error e
    | .ok nonce => if nonce.hash = stretch H f.bytes s.bytes then .ok () else .error .mismatch

/-- A check through the cache has the verdict that there is without it. -/
theorem check_fst (h : b.Reachable H) (claim : Option String) (f : Fingerprint) (s : Salt) :
    (b.check H claim f s).1 = verdict H claim f s := by
  cases claim with
  | none => rfl
  | some text =>
    cases parsed : CompoundNonce.parse text with
    | error e => simp only [check, verdict, parsed]
    | ok nonce => simp only [check, verdict, parsed, hashFor_fst h]

theorem check_snd_reachable (h : b.Reachable H) (claim : Option String) (f : Fingerprint)
    (s : Salt) : (b.check H claim f s).2.Reachable H := by
  cases claim with
  | none => exact h
  | some text =>
    cases parsed : CompoundNonce.parse text with
    | error e => simp only [check, parsed]; exact h
    | ok nonce => simp only [check, parsed]; exact hashFor_snd_reachable h f s

/-- A claim passes exactly if it spells a compound nonce with the stretched hash. The true nonce in
it may be any: the check is about what the nonce is bound to. -/
theorem verdict_eq_ok_iff {claim : Option String} {f : Fingerprint} {s : Salt} :
    verdict H claim f s = .ok () ↔
      ∃ text nonce, claim = some text ∧ CompoundNonce.parse text = .ok nonce ∧
        nonce.hash = stretch H f.bytes s.bytes := by
  constructor
  · intro h
    cases claim with
    | none => cases h
    | some text =>
      cases parsed : CompoundNonce.parse text with
      | error e => simp only [verdict, parsed] at h; cases h
      | ok nonce =>
        simp only [verdict, parsed] at h
        split at h
        · next same => exact ⟨text, nonce, rfl, parsed, same⟩
        · cases h
  · rintro ⟨text, nonce, rfl, parsed, same⟩
    simp only [verdict, parsed, if_pos same]

end TokenBinding.Binder
