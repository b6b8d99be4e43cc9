import Layer2.LedgerStore.Execute

/-! # The total state hash

`calculateTotalStateHash` feeds SHA-256 each key and then its value, for the contract
entries and then the storage entries, with no length and no separator between them. The
stream does not determine the entries: a byte can move from a key to the value that follows
it. Once the lengths of every key and value are fixed, it does.
-/

namespace Layer2.LedgerStore

def entryLengths (e : Bytes × Bytes) : Nat × Nat := (e.1.length, e.2.length)

theorem accumulateHash_eq (stream : Bytes) (iter : List (Bytes × Bytes)) :
    accumulateHash stream iter = stream ++ (iter.map fun e => e.1 ++ e.2).flatten := by
  induction iter generalizing stream with
  | nil => simp [accumulateHash]
  | cons e iter ih =>
    simp only [accumulateHash, List.foldl_cons] at ih ⊢
    rw [ih]
    simp

theorem flatten_entries_length :
    ∀ {iter₁ iter₂ : List (Bytes × Bytes)}, iter₁.map entryLengths = iter₂.map entryLengths →
      ((iter₁.map fun e => e.1 ++ e.2).flatten).length =
        ((iter₂.map fun e => e.1 ++ e.2).flatten).length
  | [], [], _ => rfl
  | (k₁, v₁) :: iter₁, (k₂, v₂) :: iter₂, hl => by
    simp only [List.map_cons, List.cons.injEq, entryLengths, Prod.mk.injEq] at hl
    simp only [List.map_cons, List.flatten_cons, List.length_append, hl.1.1, hl.1.2,
      flatten_entries_length hl.2]

/-- Entries whose keys and values have the same lengths are determined by their stream. -/
theorem flatten_entries_injective :
    ∀ {iter₁ iter₂ : List (Bytes × Bytes)}, iter₁.map entryLengths = iter₂.map entryLengths →
      (iter₁.map fun e => e.1 ++ e.2).flatten = (iter₂.map fun e => e.1 ++ e.2).flatten →
      iter₁ = iter₂
  | [], [], _, _ => rfl
  | (k₁, v₁) :: iter₁, (k₂, v₂) :: iter₂, hl, h => by
    simp only [List.map_cons, List.cons.injEq, entryLengths, Prod.mk.injEq] at hl
    simp only [List.map_cons, List.flatten_cons, List.append_assoc] at h
    obtain ⟨rfl, hv⟩ := List.append_inj h hl.1.1
    obtain ⟨rfl, hr⟩ := List.append_inj hv hl.1.2
    rw [flatten_entries_injective hl.2 hr]

section

variable (C : Collaborators)

/-- **The stream is injective on length profiles.** Two overlays whose contract and storage
iterations have keys and values of the same lengths, entry by entry, and that feed SHA-256
the same stream, have the same iterations. -/
theorem totalStateStream_injective {o₁ o₂ : OverlayDB}
    (hc : (o₁.newIterator [C.ST_CONTRACT]).map entryLengths =
      (o₂.newIterator [C.ST_CONTRACT]).map entryLengths)
    (hs : (o₁.newIterator [C.ST_STORAGE]).map entryLengths =
      (o₂.newIterator [C.ST_STORAGE]).map entryLengths)
    (h : totalStateStream C o₁ = totalStateStream C o₂) :
    o₁.newIterator [C.ST_CONTRACT] = o₂.newIterator [C.ST_CONTRACT] ∧
      o₁.newIterator [C.ST_STORAGE] = o₂.newIterator [C.ST_STORAGE] := by
  simp only [totalStateStream, accumulateHash_eq, List.nil_append] at h
  obtain ⟨h₁, h₂⟩ := List.append_inj h (flatten_entries_length hc)
  exact ⟨flatten_entries_injective hc h₁, flatten_entries_injective hs h₂⟩

end

def storedOverlay : OverlayDB := ⟨(∅ : KV).insert [5, 1] [2, 3], ∅, none⟩

def writtenOverlay : OverlayDB := ⟨∅, (∅ : KV).insert [5, 1] [2, 3], none⟩

theorem stored_written_same_entries :
    storedOverlay.newIterator [sampleCollaborators.ST_CONTRACT] =
        writtenOverlay.newIterator [sampleCollaborators.ST_CONTRACT] ∧
      storedOverlay.newIterator [sampleCollaborators.ST_STORAGE] =
        writtenOverlay.newIterator [sampleCollaborators.ST_STORAGE] :=
  totalStateStream_injective sampleCollaborators (by decide) (by decide) (by decide)

/-- Storage entries `[5, 1] ↦ [2, 3]` and `[5, 1, 2] ↦ [3]`: the boundary between key and
value moves by one byte. -/
def shiftedOverlay : OverlayDB := ⟨(∅ : KV).insert [5, 1, 2] [3], ∅, none⟩

/-- Two overlays with different storage entries feed SHA-256 the same stream, so their total
state hashes agree. -/
theorem total_state_stream_collides :
    storedOverlay.newIterator [sampleCollaborators.ST_STORAGE] ≠
        shiftedOverlay.newIterator [sampleCollaborators.ST_STORAGE] ∧
      totalStateStream sampleCollaborators storedOverlay =
        totalStateStream sampleCollaborators shiftedOverlay ∧
      calculateTotalStateHash sampleCollaborators storedOverlay =
        calculateTotalStateHash sampleCollaborators shiftedOverlay := by
  have hs : totalStateStream sampleCollaborators storedOverlay =
      totalStateStream sampleCollaborators shiftedOverlay := by decide
  refine ⟨by decide, hs, ?_⟩
  unfold calculateTotalStateHash
  rw [hs]
  rfl

end Layer2.LedgerStore
