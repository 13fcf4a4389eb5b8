import TokenBinding.Hash.Digest

/-!
# What a digest chain tells apart

A chain hashes its first message, and then the last digest with a suffix behind it. Every message
but the first is a digest followed by the suffix, and a digest has a fixed length, so the suffix can
be cut off its end. The first message says nothing of the kind.

So two chains are compared from the last message to the first. As long as the digests agree the
messages agree, or they are two messages of one digest (`Digest.Collide`), and such a pair is the
other case of every statement here. Nothing is assumed of the digest but its length.

Main statement: `Digest.chain_inj_or_collide`, for chains of any length.
-/

namespace TokenBinding

namespace Digest

/-- Two different messages whose digests agree in their first 32 bytes. -/
def Collide (H : Digest) (m₁ m₂ : Bytes) : Prop := m₁ ≠ m₂ ∧ (H m₁).take 32 = (H m₂).take 32

/-- One of the first messages collides with one of the second. -/
def CollideAmong (H : Digest) (ms₁ ms₂ : List Bytes) : Prop :=
  ∃ m₁ ∈ ms₁, ∃ m₂ ∈ ms₂, H.Collide m₁ m₂

variable {H : Digest}

/-- A chain asks the digest for its messages only. -/
theorem chain_congr {H' : Digest} {suffix : Bytes} {rounds : Nat} {m : Bytes}
    (same : ∀ x ∈ H.chainMessages suffix rounds m, H' x = H x) :
    H'.chain suffix rounds m = H.chain suffix rounds m := by
  induction rounds generalizing m with
  | zero => exact same m List.mem_cons_self
  | succ rounds ih =>
    have first : H' m = H m := same m List.mem_cons_self
    rw [chain, first]
    exact ih fun x later => same x (List.mem_cons_of_mem m later)

/-- Messages that collide do so among any more messages. -/
theorem CollideAmong.mono {ms₁ ms₂ ns₁ ns₂ : List Bytes} (h : H.CollideAmong ms₁ ms₂)
    (sub₁ : ms₁ ⊆ ns₁) (sub₂ : ms₂ ⊆ ns₂) : H.CollideAmong ns₁ ns₂ := by
  obtain ⟨m₁, mem₁, m₂, mem₂, collide⟩ := h
  exact ⟨m₁, sub₁ mem₁, m₂, sub₂ mem₂, collide⟩

/-- Messages whose digests agree are one message, or they collide. -/
theorem eq_or_collide {m₁ m₂ : Bytes} (h : (H m₁).take 32 = (H m₂).take 32) :
    m₁ = m₂ ∨ H.Collide m₁ m₂ := by
  by_cases same : m₁ = m₂
  · exact .inl same
  · exact .inr ⟨same, h⟩

/-- A digest has one length, so what is written behind it can be cut off. -/
theorem hash_append_inj {m₁ m₂ s₁ s₂ : Bytes} (h : H m₁ ++ s₁ = H m₂ ++ s₂) :
    H m₁ = H m₂ ∧ s₁ = s₂ :=
  List.append_inj h (by rw [H.length_hash, H.length_hash])

/-- Two chains of one length whose results agree in front began with one message, and from one round
on also carry one suffix; or a message of the one collides with a message of the other. -/
theorem chain_inj_or_collide {s₁ s₂ : Bytes} {rounds : Nat} {m₁ m₂ : Bytes}
    (h : (H.chain s₁ rounds m₁).take 32 = (H.chain s₂ rounds m₂).take 32) :
    (m₁ = m₂ ∧ (0 < rounds → s₁ = s₂)) ∨
      H.CollideAmong (H.chainMessages s₁ rounds m₁) (H.chainMessages s₂ rounds m₂) := by
  induction rounds generalizing m₁ m₂ with
  | zero =>
    rcases eq_or_collide h with same | collide
    · exact .inl ⟨same, fun pos => absurd pos (Nat.lt_irrefl 0)⟩
    · exact .inr ⟨m₁, List.mem_cons_self, m₂, List.mem_cons_self, collide⟩
  | succ rounds ih =>
    rcases ih h with ⟨next, -⟩ | later
    · obtain ⟨digests, suffixes⟩ := hash_append_inj next
      rcases eq_or_collide (congrArg (List.take 32) digests) with same | collide
      · exact .inl ⟨same, fun _ => suffixes⟩
      · exact .inr ⟨m₁, List.mem_cons_self, m₂, List.mem_cons_self, collide⟩
    · exact .inr (later.mono (List.subset_cons_self _ _) (List.subset_cons_self _ _))

/-- The digest that is zero of every message, so that any two messages collide. -/
def zeros : Digest := ⟨fun _ => List.replicate 64 0, fun _ => List.length_replicate⟩

/-- Under the digest that is always zero, every chain ends in zeros. -/
theorem chain_zeros (suffix : Bytes) (rounds : Nat) (m : Bytes) :
    zeros.chain suffix rounds m = List.replicate 64 0 := by
  induction rounds generalizing m with
  | zero => rfl
  | succ rounds ih => exact ih _

end Digest

end TokenBinding
