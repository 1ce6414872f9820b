import Mathlib.Data.Set.Card
import SerialLine.Proofs.Listener.Custody

/-!
# SerialLine.Proofs.Listener.Safety — what a registry guarantees whatever its clients do

Whatever the order of steps, the table stays within its capacity and keeps slots under their own
descriptors, only slots of the table have listeners, and a descriptor has one listener thread of
each kind at most. The last follows from the others: a thread that was not joined is known at a
seat, the seat's slot is in the table, and a seat knows one thread.
-/

namespace SerialLine.Scene

/-- What a registry guarantees. -/
structure Safe (capacity : Nat) (s : Scene) : Prop where
  /-- The table is no larger than it may be. -/
  size : s.registry.table.length ≤ capacity
  /-- No descriptor is in the table twice. -/
  keys : (s.registry.table.map Prod.fst).Nodup
  /-- The slot stored under a descriptor was made for it. -/
  stored : ∀ fd slot, (fd, slot) ∈ s.registry.table →
    slot < s.registry.slots.length ∧ s.registry.fdOf slot = fd
  /-- A slot with a listener that starts, runs or stops is the one stored under its descriptor. -/
  current : ∀ slot k, s.registry.isActive slot k = true →
    s.registry.slotOf? (s.registry.fdOf slot) = some slot
  /-- A descriptor has one listener thread of a kind at most. -/
  sole : ∀ fd k t t', s.Listens t fd k → s.Listens t' fd k → t = t'
  /-- No more descriptors have a listener thread than the table has room for. -/
  listened : {fd | ∃ t k, s.Listens t fd k}.encard ≤ capacity

variable {s : Scene} {capacity : Nat} {settings : ListenerSettings}

/-- The descriptors with a listener thread are in the table. -/
theorem Inv.listened_encard (h : s.Inv) :
    {fd | ∃ t k, s.Listens t fd k}.encard ≤ s.registry.capacity := by
  -- each of them has a slot of its own in the table
  have hsub : {fd | ∃ t k, s.Listens t fd k} ⊆ (s.registry.table.map Prod.fst).toFinset := by
    rintro fd ⟨t, k, hl⟩
    rcases h.listener_known hl with ⟨slot, hcur, rfl, -⟩
    have hmem := Registry.mem_table_of_slotOf? (Registry.isCurrent_iff.mp hcur).2
    simpa using ⟨slot, hmem⟩
  calc {fd | ∃ t k, s.Listens t fd k}.encard
      ≤ ((s.registry.table.map Prod.fst).toFinset : Set Fd).encard := Set.encard_le_encard hsub
    _ = (s.registry.table.map Prod.fst).toFinset.card := Set.encard_coe_eq_coe_finsetCard _
    _ ≤ s.registry.capacity := by
      have hcard := List.toFinset_card_le (s.registry.table.map Prod.fst)
      rw [List.length_map] at hcard
      exact_mod_cast hcard.trans h.sound.size

/-- In every order of steps, of any number of clients, threads and failures, a registry is safe. -/
theorem Reachable.registry_safe (h : Reachable capacity settings s) : s.Safe capacity := by
  have hinv := h.inv
  have hcap := h.limits.1
  constructor
  · exact hcap ▸ hinv.sound.size
  · exact hinv.sound.keys
  · exact fun fd slot hmem => hinv.sound.stored (fd, slot) hmem
  · intro slot k hactive
    have hcur := hinv.sound.current slot k (Registry.isActive_iff.mp hactive)
    exact (Registry.isCurrent_iff.mp hcur).2
  · exact fun fd k t t' => hinv.listener_unique
  · exact hcap ▸ hinv.listened_encard

/-- Two clients register a data listener for one descriptor. One of them gets the seat and the
other gives the slot back while the thread is being started. -/
def rivals : List Action :=
  [.begin (.registering 3 (.data {} false)), .begin (.registering 3 (.data {} false)),
    .proceed 1, .proceed 0, .proceed 1, .thread (.step 0), .proceed 0, .thread (.step 0),
    .proceed 1, .proceed 1]

theorem rivals_safe :
    ∃ s, (start 1 {} {} []).run? rivals = some s ∧ s.registry.seat 0 .data = .running 0 ∧
      s.Listens 0 3 .data ∧ s.Safe 1 := by
  have hrun : ∃ s, (start 1 {} {} []).run? rivals = some s ∧
      s.registry.seat 0 .data = .running 0 ∧ s.Listens 0 3 .data :=
    ⟨_, rfl, rfl, List.not_mem_nil, _, rfl, rfl, rfl⟩
  rcases hrun with ⟨s, hrun, hseat, hlistens⟩
  exact ⟨s, hrun, hseat, hlistens, Reachable.registry_safe (Reachable.run (.start {} []) hrun)⟩

end SerialLine.Scene
