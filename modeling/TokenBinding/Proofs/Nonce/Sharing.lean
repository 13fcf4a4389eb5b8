import Mathlib.Data.List.Induction
import Mathlib.Logic.Function.Basic
import Mathlib.Logic.Relation
import TokenBinding.Proofs.Nonce.Cache

/-!
# Callers that share a binder

A binder may have any number of callers at a time. What they do to it are two atomic steps, the
look-up of a hash and the insertion of a computed one, and in between a caller holds nothing. So
others may look up and insert meanwhile: two callers may compute one hash, an entry may be put in
that is there already, and the binder may be emptied between the two steps of a call.

`Sharing` is a binder with its callers, and `Sharing.Step` what one of them does next, with the
binder's own `lookup` and `insert`. The steps of different callers come in any order. A call that is
not interrupted goes as the binder's own functions have it (`Call.run`, `Sharing.reaches_make`).

What it does not establish. Nothing is said about the time that a call takes, nor that a caller ever
gets to his next step. Look-up and insertion are atomic by assumption, each under the lock of the
entries.

Main statement: `shared_calls_uncached`. In no order does a call give anything but what it gives
without a binder, and the binder never holds more than 64 entries, each of them the hash of its key.
-/

namespace TokenBinding.Binder

/-! ## Calls -/

/-- A call to a binder. -/
inductive Call where
  | hash (fingerprint : Fingerprint) (salt : Salt)
  | bind (trueNonce : TrueNonce) (fingerprint : Fingerprint) (salt : Salt)
  | check (claim : Option String) (fingerprint : Fingerprint) (salt : Salt)

/-- What a call gives. -/
inductive Answer where
  | hash (hash : FingerprintHash)
  | nonce (nonce : CompoundNonce)
  | checked (result : Except NonceError Unit)

namespace Call

/-- The fingerprint and the salt that a call is about. -/
def subject : Call → Fingerprint × Salt
  | hash f s => (f, s)
  | bind _ f s => (f, s)
  | check _ f s => (f, s)

/-- Why a call is refused before it looks into the binder. -/
def refusal? : Call → Option NonceError
  | check none _ _ => some .missing
  | check (some text) _ _ =>
    match CompoundNonce.parse text with
    | .error e => some e
    | .ok _ => none
  | _ => none

/-- What a call that is not refused makes of the hash. -/
def answer (hash : FingerprintHash) : Call → Answer
  | .hash _ _ => .hash hash
  | .bind t _ _ => .nonce ⟨t, hash⟩
  | .check claim _ _ =>
    .checked (match claim with
      | none => .error .missing
      | some text =>
        match CompoundNonce.parse text with
        | .error e => .error e
        | .ok nonce => if nonce.hash = hash then .ok () else .error .mismatch)

/-- What a call gives without a binder. -/
def uncached (H : Digest) : Call → Answer
  | .hash f s => .hash (stretch H f.bytes s.bytes)
  | .bind t f s => .nonce ⟨t, stretch H f.bytes s.bytes⟩
  | .check claim f s => .checked (verdict H claim f s)

/-- A call by the functions of the binder. -/
def run (H : Digest) (b : Binder) : Call → Answer × Binder
  | .hash f s => ((.hash (b.hashFor H f s).1), (b.hashFor H f s).2)
  | .bind t f s => (.nonce (b.bind H t f s).1, (b.bind H t f s).2)
  | .check claim f s => (.checked (b.check H claim f s).1, (b.check H claim f s).2)

/-- The hash that a call needs. -/
def stretched (H : Digest) (call : Call) : FingerprintHash :=
  stretch H call.subject.1.bytes call.subject.2.bytes

variable {H : Digest} {b : Binder} {call : Call}

/-- With the stretch of its own salt and fingerprint at hand, a call answers as it would without a
cache. -/
theorem answer_stretched (H : Digest) (call : Call) :
    call.answer (call.stretched H) = call.uncached H := by
  cases call with
  | hash f s => rfl
  | bind t f s => rfl
  | check claim f s =>
    cases claim <;> rfl

/-- A call is refused for a claim that is missing or is no compound nonce, and for nothing else. -/
theorem refusal?_eq_some_iff {e : NonceError} :
    call.refusal? = some e ↔ ∃ claim f s, call = .check claim f s ∧
      (claim = none ∧ e = .missing ∨
        ∃ text, claim = some text ∧ CompoundNonce.parse text = .error e) := by
  cases call with
  | hash f s => simp [refusal?]
  | bind t f s => simp [refusal?]
  | check claim f s =>
    cases claim with
    | none => simp [refusal?, eq_comm]
    | some text =>
      cases parsed : CompoundNonce.parse text <;> simp [refusal?, parsed]

/-- A refused call gives its refusal without a binder too. -/
theorem uncached_of_refusal {e : NonceError} (refused : call.refusal? = some e) :
    call.uncached H = .checked (.error e) := by
  obtain ⟨claim, f, s, rfl, ⟨rfl, rfl⟩ | ⟨text, rfl, parsed⟩⟩ := refusal?_eq_some_iff.mp refused
  · rfl
  · simp only [uncached, verdict, parsed]

/-- A call that is refused at sight answers so and leaves the cache alone. -/
theorem run_of_refusal {e : NonceError} (refused : call.refusal? = some e) :
    call.run H b = (.checked (.error e), b) := by
  obtain ⟨claim, f, s, rfl, ⟨rfl, rfl⟩ | ⟨text, rfl, parsed⟩⟩ := refusal?_eq_some_iff.mp refused
  · rfl
  · simp only [run, Binder.check, parsed]

/-- A call that is not refused asks for the hash of its subject. What it answers with that hash does
not depend on where the hash came from. -/
theorem run_of_accepted (accepted : call.refusal? = none) :
    call.run H b = (call.answer (b.hashFor H call.subject.1 call.subject.2).1,
      (b.hashFor H call.subject.1 call.subject.2).2) := by
  cases call with
  | hash f s => rfl
  | bind t f s => rfl
  | check claim f s =>
    cases claim with
    | none => cases accepted
    | some text =>
      cases parsed : CompoundNonce.parse text with
      | error e =>
        simp only [refusal?, parsed, reduceCtorEq] at accepted
      | ok nonce =>
        simp only [run, answer, subject, Binder.check, parsed]
        rfl

end Call

/-! ## Steps -/

/-- A binder and its callers. -/
structure Sharing (ι : Type) where
  binder : Binder := {}
  /-- The call for which a caller is computing the hash. -/
  computing : ι → Option Call := fun _ => none
  /-- The calls that have come to an end, the last first. -/
  answered : List (ι × Call × Answer) := []

namespace Sharing

variable {ι : Type} {H : Digest}

/-- The binder has come by its entries by insertion, and every call so far was answered as if there
were no binder. -/
structure Sound (H : Digest) (w : Sharing ι) : Prop where
  binder : w.binder.Reachable H
  answered : ∀ r ∈ w.answered, r.2.2 = r.2.1.uncached H

theorem Sound.start : Sound H ({} : Sharing ι) := ⟨.empty, nofun⟩

variable [DecidableEq ι] {w w' : Sharing ι} {i : ι}

/-- What one of the callers does next. -/
inductive Step (H : Digest) (w : Sharing ι) : Sharing ι → Prop
  /-- A call is refused, and the binder is not looked into. -/
  | refuse {i : ι} {call : Call} {e : NonceError} (free : w.computing i = none)
      (refused : call.refusal? = some e) :
      Step H w { w with answered := (i, call, .checked (.error e)) :: w.answered }
  /-- The look-up of a call finds the hash. -/
  | find {i : ι} {call : Call} {hash : FingerprintHash} (free : w.computing i = none)
      (accepted : call.refusal? = none)
      (found : w.binder.lookup call.subject.1 call.subject.2 = some hash) :
      Step H w { w with answered := (i, call, call.answer hash) :: w.answered }
  /-- The look-up of a call finds nothing. -/
  | miss {i : ι} {call : Call} (free : w.computing i = none) (accepted : call.refusal? = none)
      (absent : w.binder.lookup call.subject.1 call.subject.2 = none) :
      Step H w { w with computing := Function.update w.computing i (some call) }
  /-- The hash has been computed and is put in. -/
  | keep {i : ι} {call : Call} (computing : w.computing i = some call) :
      Step H w {
        binder := w.binder.insert call.subject.1 call.subject.2 (call.stretched H)
        computing := Function.update w.computing i none
        answered := (i, call, call.answer (call.stretched H)) :: w.answered }

/-- What the callers may come to, in any order of their steps. -/
def Reaches (H : Digest) : Sharing ι → Sharing ι → Prop := Relation.ReflTransGen (Step H)

/-- Every step keeps the cache and the hashes that callers hold sound. A caller may well insert what
another has inserted meanwhile; both are the same stretch. -/
theorem Sound.step (sound : w.Sound H) (step : Step H w w') : w'.Sound H := by
  cases step with
  | refuse free refused =>
    refine ⟨sound.binder, List.forall_mem_cons.mpr ⟨?_, sound.answered⟩⟩
    exact (Call.uncached_of_refusal refused).symm
  | @find i call hash free accepted found =>
    refine ⟨sound.binder, List.forall_mem_cons.mpr ⟨?_, sound.answered⟩⟩
    -- The entry may be of any age and from any caller. All that counts is its key.
    obtain rfl : hash = call.stretched H := sound.binder.lookup_eq found
    exact call.answer_stretched H
  | miss free accepted absent => exact ⟨sound.binder, sound.answered⟩
  | @keep i call computing =>
    refine ⟨sound.binder.insert _ _, List.forall_mem_cons.mpr ⟨?_, sound.answered⟩⟩
    exact call.answer_stretched H

theorem Sound.reaches (sound : w.Sound H) (steps : Reaches H w w') : w'.Sound H := by
  induction steps with
  | refl => exact sound
  | tail _ step ih => exact ih.step step

/-- A caller whose look-up found nothing is never held up: it can put the hash in and is answered,
and that is nothing to the other callers. -/
theorem exists_step_of_computing {call : Call} (computing : w.computing i = some call) :
    ∃ w', Step H w w' ∧ w'.computing = Function.update w.computing i none ∧
      w'.answered = (i, call, call.uncached H) :: w.answered := by
  refine ⟨_, .keep computing, rfl, ?_⟩
  rw [call.answer_stretched]

/-! ## Calls that are not interrupted -/

/-- A caller makes a call without interruption. -/
def make (H : Digest) (w : Sharing ι) (r : ι × Call) : Sharing ι where
  binder := (r.2.run H w.binder).2
  computing := w.computing
  answered := (r.1, r.2, (r.2.run H w.binder).1) :: w.answered

/-- A caller who is free can make his call to its end with nobody between, in one step if the hash
is found and in two if it is not. So the binder's own functions are runs of this kind. -/
theorem reaches_make (free : w.computing i = none) (call : Call) :
    Reaches H w (w.make H (i, call)) := by
  cases refused : call.refusal? with
  | some e =>
    have run : call.run H w.binder = (.checked (.error e), w.binder) := Call.run_of_refusal refused
    rw [make, run]
    exact .single (.refuse free refused)
  | none =>
    have run := Call.run_of_accepted (H := H) (b := w.binder) refused
    rw [make, run]
    cases found : w.binder.lookup call.subject.1 call.subject.2 with
    | some hash =>
      simp only [hashFor, found]
      exact .single (.find free refused found)
    | none =>
      simp only [hashFor, found]
      have missed : Step H w _ := .miss free refused found
      have kept : Step H { w with computing := Function.update w.computing i (some call) } _ :=
        .keep (Function.update_self i (some call) w.computing)
      have back : Function.update w.computing i none = w.computing :=
        Function.update_eq_self_iff.mpr free.symm
      rw [Function.update_idem, back] at kept
      exact .tail (.single missed) kept

/-- So calls that are made one after the other are one of the orders. -/
theorem reaches_makeAll (free : ∀ i, w.computing i = none) (calls : List (ι × Call)) :
    Reaches H w (calls.foldl (make H) w) := by
  induction calls generalizing w with
  | nil => exact .refl
  | cons r rest ih => exact (reaches_make (free r.1) r.2).trans (ih free)

end Sharing

/-! ## Hashes in a row -/

/-- The subject that a call needs the hash of. -/
def Call.asked? (call : Call) : Option (Fingerprint × Salt) :=
  match call.refusal? with
  | some _ => none
  | none => some call.subject

/-- Asks for the hashes of these subjects, one after the other. -/
def hashAll (H : Digest) (b : Binder) (subjects : List (Fingerprint × Salt)) : Binder :=
  subjects.foldl (fun b p => (b.hashFor H p.1 p.2).2) b

/-- The key of a subject. -/
def keyOf (p : Fingerprint × Salt) : Bytes × Bytes := (p.1.bytes, p.2.bytes)

/-- A pair of a fingerprint and a salt has a key of its own. -/
theorem keyOf_inj {p p' : Fingerprint × Salt} (h : keyOf p = keyOf p') : p = p' := by
  obtain ⟨⟨f⟩, ⟨s⟩⟩ := p
  obtain ⟨⟨f'⟩, ⟨s'⟩⟩ := p'
  cases h
  rfl

variable {H : Digest} {b : Binder}

/-- A binder is left as it is by calls that are refused; of the others it sees the subjects, in the
order of the calls. What they do with a hash is not its affair. -/
theorem binder_makeAll {ι : Type} (w : Sharing ι) (calls : List (ι × Call)) :
    (calls.foldl (Sharing.make H) w).binder =
      hashAll H w.binder (calls.filterMap fun r => r.2.asked?) := by
  induction calls generalizing w with
  | nil => rfl
  | cons r rest ih =>
    rw [List.foldl_cons, ih]
    cases refused : r.2.refusal? with
    | some e =>
      have same : (w.make H r).binder = w.binder := by
        rw [Sharing.make, Call.run_of_refusal refused]
      have nothing : r.2.asked? = none := by rw [Call.asked?, refused]
      simp only [same, List.filterMap_cons, nothing]
    | none =>
      have next : (w.make H r).binder = (w.binder.hashFor H r.2.subject.1 r.2.subject.2).2 := by
        rw [Sharing.make, Call.run_of_accepted refused]
      have asked : r.2.asked? = some r.2.subject := by rw [Call.asked?, refused]
      simp only [next, List.filterMap_cons, asked]
      rfl

/-- A hash that is not kept is put in front of the others, which are dropped if they are as many as
the binder takes. -/
theorem entries_hashFor_of_absent {p : Fingerprint × Salt}
    (absent : keyOf p ∉ b.entries.map Prod.fst) :
    (b.hashFor H p.1 p.2).2.entries =
      (keyOf p, stretch H p.1.bytes p.2.bytes) :: if b.size ≥ capacity then [] else b.entries := by
  have other : ∀ e ∈ b.entries, e.1 ≠ keyOf p := by
    intro e mem same
    exact absent (List.mem_map.mpr ⟨e, mem, same⟩)
  have found : b.lookup p.1 p.2 = none := by
    refine List.lookup_eq_none_iff.mpr ?_
    intro e mem
    exact bne_iff_ne.mpr (other e mem).symm
  have all : b.entries.filter (fun e => e.1 ≠ (p.1.bytes, p.2.bytes)) = b.entries :=
    List.filter_eq_self.mpr fun e mem => decide_eq_true (other e mem)
  simp only [hashFor, found, insert, all]
  rfl

/-- Of different subjects that were asked for one after the other, an empty binder comes to hold the
last ones, as many as there were since it was emptied. -/
theorem entries_hashAll {ps : List (Fingerprint × Salt)} (nonempty : ps ≠ [])
    (distinct : ps.Nodup) :
    (hashAll H {} ps).entries =
      (ps.reverse.take ((ps.length - 1) % capacity + 1)).map fun p =>
        (keyOf p, stretch H p.1.bytes p.2.bytes) := by
  induction ps using List.reverseRecOn with
  | nil => exact absurd rfl nonempty
  | append_singleton init p ih =>
    have first : p ∉ init := fun mem =>
      (List.nodup_append.mp distinct).2.2 p mem p (List.mem_singleton_self p) rfl
    rw [List.reverse_append, List.reverse_singleton, List.singleton_append, List.length_append,
      List.length_singleton, Nat.add_sub_cancel, List.take_succ_cons, List.map_cons]
    have last : hashAll H {} (init ++ [p]) = ((hashAll H {} init).hashFor H p.1 p.2).2 := by
      rw [hashAll, List.foldl_append]
      rfl
    by_cases empty : init = []
    · subst empty
      rfl
    · have before := ih empty (List.nodup_append.mp distinct).1
      have absent : keyOf p ∉ (hashAll H {} init).entries.map Prod.fst := by
        rw [before, List.map_map]
        intro mem
        obtain ⟨p', among, same⟩ := List.mem_map.mp mem
        obtain rfl : p' = p := keyOf_inj same
        exact first (List.mem_reverse.mp (List.mem_of_mem_take among))
      have pos : 0 < init.length := List.length_pos_iff.mpr empty
      have size : (hashAll H {} init).size = (init.length - 1) % capacity + 1 := by
        rw [size, before, List.length_map, List.length_take, List.length_reverse]
        have bound : (init.length - 1) % capacity ≤ init.length - 1 := Nat.mod_le _ _
        omega
      rw [last, entries_hashFor_of_absent absent, size]
      refine congrArg _ ?_
      -- The binder is full exactly if the number of subjects so far is a multiple of its capacity.
      by_cases full : (init.length - 1) % capacity + 1 ≥ capacity
      · have restart : init.length % capacity = 0 := by
          unfold capacity at full ⊢
          omega
        rw [if_pos full, restart]
        rfl
      · have grown : init.length % capacity = (init.length - 1) % capacity + 1 := by
          unfold capacity at full ⊢
          omega
        rw [if_neg full, grown, before]

/-! ## All orders -/

/-- However the steps of the callers of one binder are interleaved, each entry is the hash of its
key, there is one entry for a key, there are at most 64, and every call has been answered as it is
without a binder. A caller that is computing a hash is answered after one more step, and one that is
not can make any call. A check of a claim that is missing or is no compound nonce leaves the binder
as it is. Calls that are made one after the other, for different subjects and from an empty binder,
leave the hashes of the last of them, as many as there were since it was emptied. -/
theorem shared_calls_uncached (H : Digest) (ι : Type) [DecidableEq ι] :
    (∀ w : Sharing ι, Sharing.Reaches H {} w →
      (∀ e ∈ w.binder.entries, e.2 = stretch H e.1.1 e.1.2) ∧
      (w.binder.entries.map Prod.fst).Nodup ∧ w.binder.size ≤ 64 ∧
      (∀ r ∈ w.answered, r.2.2 = r.2.1.uncached H) ∧
      (∀ i call, w.computing i = some call →
        ∃ w', Sharing.Step H w w' ∧ w'.computing = Function.update w.computing i none ∧
          w'.answered = (i, call, call.uncached H) :: w.answered) ∧
      ∀ i call, w.computing i = none →
        Sharing.Reaches H w (w.make H (i, call)) ∧
          (w.make H (i, call)).answered = (i, call, call.uncached H) :: w.answered) ∧
    (∀ (b : Binder) (claim : Option String) (f : Fingerprint) (s : Salt),
      (claim = none ∨ ∃ text e, claim = some text ∧ CompoundNonce.parse text = .error e) →
        (b.check H claim f s).2 = b) ∧
    ∀ calls : List (ι × Call),
      let subjects := calls.filterMap fun r => r.2.asked?
      subjects ≠ [] → subjects.Nodup →
        Sharing.Reaches H {} (calls.foldl (Sharing.make H) {}) ∧
          (calls.foldl (Sharing.make H) {}).binder.entries =
            (subjects.reverse.take ((subjects.length - 1) % 64 + 1)).map fun p =>
              (keyOf p, stretch H p.1.bytes p.2.bytes) := by
  refine ⟨?_, ?_, ?_⟩
  · intro w reached
    have sound : w.Sound H := Sharing.Sound.start.reaches reached
    refine ⟨sound.binder.entry_eq, sound.binder.nodup_keys, sound.binder.size_le, sound.answered,
      fun i call => Sharing.exists_step_of_computing, ?_⟩
    intro i call free
    have reaches := Sharing.reaches_make (H := H) free call
    refine ⟨reaches, ?_⟩
    have answered := (sound.reaches reaches).answered _ List.mem_cons_self
    exact congrArg (fun a => (i, call, a) :: w.answered) answered
  -- A claim that cannot be read is refused before the binder is looked at.
  · intro b claim f s unreadable
    have refused : ∃ e, (Call.check claim f s).refusal? = some e := by
      rcases unreadable with none | ⟨text, e, some, parsed⟩
      · exact ⟨.missing, Call.refusal?_eq_some_iff.mpr ⟨claim, f, s, rfl, .inl ⟨none, rfl⟩⟩⟩
      · exact ⟨e, Call.refusal?_eq_some_iff.mpr ⟨claim, f, s, rfl, .inr ⟨text, some, parsed⟩⟩⟩
    obtain ⟨e, refused⟩ := refused
    exact congrArg Prod.snd (Call.run_of_refusal (H := H) (b := b) refused)
  -- Calls in a row are one of the runs, and of them the binder sees the subjects only.
  · intro calls subjects nonempty distinct
    refine ⟨Sharing.reaches_makeAll (fun _ => rfl) calls, ?_⟩
    rw [binder_makeAll]
    exact entries_hashAll nonempty distinct

/-- Two callers whose look-ups both find nothing put the same entry in twice, and both are answered
with the hash. -/
theorem shared_calls_uncached_race :
    let call : Call := .hash ⟨[1]⟩ ⟨[2]⟩
    ∃ w w' w'' : Sharing Bool, Sharing.Reaches .sha512 {} w ∧
      (∀ i, w.computing i = some call) ∧ Sharing.Step .sha512 w w' ∧ Sharing.Step .sha512 w' w'' ∧
      w''.answered = [(true, call, .hash (stretch .sha512 [1] [2])),
        (false, call, .hash (stretch .sha512 [1] [2]))] ∧ w''.binder.size ≤ 64 := by
  intro call
  let both : Sharing Bool :=
    { computing := Function.update (Function.update (fun _ => none) false (some call)) true
        (some call) }
  have reached : Sharing.Reaches .sha512 {} both := by
    have accepted : call.refusal? = none := rfl
    refine .tail (.single (.miss (i := false) rfl accepted rfl)) ?_
    exact .miss (i := true) rfl accepted rfl
  obtain ⟨all, -, -⟩ := shared_calls_uncached .sha512 Bool
  obtain ⟨-, -, -, -, finish, -⟩ := all both reached
  obtain ⟨w', first, others, answered⟩ := finish false call rfl
  have waiting : w'.computing true = some call := by
    rw [others]
    rfl
  obtain ⟨-, -, -, -, finish', -⟩ := all w' (reached.tail first)
  obtain ⟨w'', second, -, answered'⟩ := finish' true call waiting
  obtain ⟨-, -, bounded, -⟩ := all w'' ((reached.tail first).tail second)
  rw [answered] at answered'
  exact ⟨both, w', w'', reached, Bool.forall_bool.mpr ⟨rfl, rfl⟩, first, second, answered', bounded⟩

end TokenBinding.Binder
