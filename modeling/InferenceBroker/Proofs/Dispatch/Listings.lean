import InferenceBroker.Proofs.Core.KeyOrder
import InferenceBroker.Proofs.Dispatch.Reachable

/-!
# Listings in key order

The dispatcher lists its serving engines and their statistics by key and its bound
transactions in ascending order; the loader lists its descriptors by key. Each listing is a
merge sort under a total preorder, so it is sorted and a permutation of what it lists
(`sorted_by_key`, `sorted_ascending`). Each lists things with distinct keys: a reachable
dispatcher serves one engine per key and binds each transaction once
(`Dispatcher.Reachable.serving_keys_nodup`), and a loader holds one descriptor per key,
since registering a descriptor replaces the one of its key (`Loader.Built.keyed`). A sorted
list of distinct keys is strictly increasing.
-/

namespace InferenceBroker

section Sorting

variable {α : Type}

theorem ne_gt_eq_isLE (o : Ordering) : (o != .gt) = o.isLE := by
  cases o <;> rfl

/-- Merge sort under the key order lists the keys strictly increasing when no two elements
share a key. -/
theorem sorted_by_key (key : α → EngineKey) {l : List α} (distinct : (l.map key).Nodup) :
    ((l.mergeSort fun a b => (key a).compare (key b) != .gt).map key).Pairwise
      (fun a b => a.compare b = .lt) := by
  have sorted : (l.mergeSort fun a b => (key a).compare (key b) != .gt).Pairwise
      (fun a b => ((key a).compare (key b) != .gt) = true) := by
    refine List.pairwise_mergeSort (fun a b c hab hbc => ?_) (fun a b => ?_) l
    · rw [ne_gt_eq_isLE] at hab hbc ⊢
      exact Std.TransCmp.isLE_trans hab hbc
    · -- two keys in the wrong order are in the right one swapped
      cases h : (key a).compare (key b)
      all_goals simp [(Std.OrientedCmp.eq_swap : (key b).compare (key a) = _), h]
  have apart : ((l.mergeSort fun a b => (key a).compare (key b) != .gt).map key).Nodup :=
    ((List.mergeSort_perm l _).map key).nodup_iff.2 distinct
  rw [List.pairwise_map]
  refine (sorted.and (List.pairwise_map.1 apart)).imp fun ⟨le, ne⟩ => ?_
  cases h : (key _).compare (key _)
  · rfl
  · exact absurd (Std.LawfulEqCmp.eq_of_compare h) ne
  · simp [h] at le

/-- Merge sort lists distinct transaction ids strictly ascending. -/
theorem sorted_ascending {l : List UInt64} (distinct : l.Nodup) :
    (l.mergeSort fun a b => a ≤ b).Pairwise (· < ·) := by
  have sorted : (l.mergeSort fun a b => a ≤ b).Pairwise (fun a b => decide (a ≤ b) = true) :=
    List.pairwise_mergeSort (fun a b c hab hbc => by simpa using UInt64.le_trans (by simpa using hab) (by simpa using hbc))
      (fun a b => by simpa using UInt64.le_total a b) l
  have apart := (List.mergeSort_perm l fun a b => a ≤ b).nodup_iff.2 distinct
  exact (sorted.and apart).imp fun ⟨le, ne⟩ => UInt64.lt_of_le_of_ne (by simpa using le) ne

end Sorting

namespace Dispatcher

variable {L : Type} {d : Dispatcher L}

/-- A reachable dispatcher serves at most one engine per key. -/
theorem Reachable.serving_keys_nodup (h : d.Reachable) :
    ((d.engines.filter (·.phase == .serving)).map (·.key)).Nodup := by
  have P := h.consistent
  have distinct : d.Distinct := P.sound.nodup
  refine List.Nodup.map_on (fun x hx y hy same => ?_) ((List.Nodup.of_map _ distinct).filter _)
  simp only [List.mem_filter, beq_iff_eq] at hx hy
  have slots := P.serving x.slot (slot_mem hx.1) y.slot (slot_mem hy.1) hx.2 hy.2 same
  exact List.inj_on_of_nodup_map distinct hx.1 hy.1 (congrArg Engine.Slot.id slots)

/-- What the dispatcher's listings show: every serving engine once, strictly increasing by
key; their statistics likewise; and every bound transaction once, strictly ascending. -/
structure Listed (d : Dispatcher L) : Prop where
  engines_perm : d.serving.Perm (d.engines.filter (·.phase == .serving))
  engines_sorted : (d.serving.map (·.key)).Pairwise (fun a b => a.compare b = .lt)
  stats_perm : d.stats.Perm ((d.engines.filter (·.phase == .serving)).map Engine.stats)
  stats_sorted : (d.stats.map (·.key)).Pairwise (fun a b => a.compare b = .lt)
  transactions_perm : d.transactions.Perm (d.clients.map (·.1))
  transactions_sorted : d.transactions.Pairwise (· < ·)

theorem Reachable.listed (h : d.Reachable) : d.Listed := by
  have engines_perm : d.serving.Perm (d.engines.filter (·.phase == .serving)) := List.mergeSort_perm _ _
  have engines_sorted : (d.serving.map (·.key)).Pairwise (fun a b => a.compare b = .lt) :=
    sorted_by_key Engine.key h.serving_keys_nodup
  -- an engine's statistics carry its key
  have stats_keys : d.stats.map (·.key) = d.serving.map (·.key) := by
    simp [stats, Engine.stats]
  exact {
    engines_perm := engines_perm
    engines_sorted := engines_sorted
    stats_perm := engines_perm.map _
    stats_sorted := stats_keys ▸ engines_sorted
    transactions_perm := List.mergeSort_perm _ _
    transactions_sorted := sorted_ascending h.consistent.txs }

end Dispatcher

namespace Loader

/-- The loaders a program builds: made from a list of descriptors, then given more
descriptors and openers. -/
inductive Built : Loader → Prop
  | make {builtins : List (String × Maker)} {dir : Directory} {ds : List Descriptor} {l : Loader} :
      makeWith builtins dir ds = .ok l → Built l
  | register {l l' : Loader} {d : Descriptor} : Built l → l.register d = .ok l' → Built l'
  | registerOpener {l : Loader} (kind : String) (o : Opener) : Built l → Built (l.registerOpener kind o)

/-- One descriptor per key. -/
def Keyed (l : Loader) : Prop := (l.table.map (·.key)).Nodup

/-- Registering puts a descriptor in place of the one of its key. -/
theorem register_table {l l' : Loader} {d : Descriptor} (h : l.register d = .ok l') :
    ∃ x, l'.table = x :: l.table.filter (·.key != x.key) := by
  -- whatever defaults fill in, the descriptor stored is the one whose key is filtered out
  have stores : ∀ (c : Prop) [Decidable c] (x : Descriptor) (e : Failure),
      (if c then .error e else .ok { l with table := x :: l.table.filter (·.key != x.key) }) = Except.ok l' →
        ∃ x, l'.table = x :: l.table.filter (·.key != x.key) := by
    intro c _ x e stored
    split at stored
    · cases stored
    · cases stored
      exact ⟨x, rfl⟩
  unfold register at h
  split at h
  · cases h
  · exact stores _ _ _ h

theorem Keyed.register {l l' : Loader} {d : Descriptor} (keyed : l.Keyed) (h : l.register d = .ok l') :
    l'.Keyed := by
  obtain ⟨x, table⟩ := register_table h
  unfold Keyed
  rw [table, List.map_cons, List.nodup_cons]
  refine ⟨fun mem => ?_, keyed.sublist ((List.filter_sublist).map _)⟩
  obtain ⟨y, hy, same⟩ := List.mem_map.1 mem
  simp [same] at hy

theorem Keyed.foldlM {l l' : Loader} {ds : List Descriptor} (keyed : l.Keyed)
    (h : ds.foldlM Loader.register l = .ok l') : l'.Keyed := by
  induction ds generalizing l with
  | nil =>
    cases h
    exact keyed
  | cons d ds ih =>
    rw [List.foldlM_cons] at h
    cases registered : l.register d with
    | error e =>
      rw [registered] at h
      cases h
    | ok l₁ =>
      rw [registered] at h
      exact ih (keyed.register registered) h

theorem Built.keyed {l : Loader} (h : l.Built) : l.Keyed := by
  induction h with
  | make made => exact Keyed.foldlM (l := { directory := _, builtins := _ }) List.nodup_nil made
  | register _ registered ih => exact ih.register registered
  | registerOpener kind o _ ih => exact ih

/-- The descriptors of a loader with one descriptor per key: each once, strictly increasing
by key. -/
theorem Keyed.descriptors {l : Loader} (keyed : l.Keyed) :
    l.descriptors.Perm l.table ∧ (l.descriptors.map (·.key)).Pairwise (fun a b => a.compare b = .lt) :=
  ⟨List.mergeSort_perm _ _, sorted_by_key Descriptor.key keyed⟩

end Loader

/-- Engine keys are totally ordered, lexicographically by the bytes of their ids and then by
their versions as signed integers; the signed comparison is `-1`, `0` or `1`, antisymmetric,
zero only for equal keys and transitive, and `lt` is its negative half. Consequently every
reachable dispatcher lists its serving engines and their statistics once each, strictly
increasing by key, and its bound transactions strictly ascending, and every loader lists one
descriptor per registered key, strictly increasing by key. -/
theorem listings_strictly_sorted :
    (∀ a b : EngineKey, a.compare b =
      (Ord.compare a.algorithm.toUTF8.data.toList b.algorithm.toUTF8.data.toList).then
        (Ord.compare a.version b.version)) ∧
    (∀ a b : EngineKey, a.compareSign b = -1 ∨ a.compareSign b = 0 ∨ a.compareSign b = 1) ∧
    (∀ a b : EngineKey, a.compareSign b = -b.compareSign a) ∧
    (∀ a b : EngineKey, a.compareSign b = 0 ↔ a = b) ∧
    (∀ a b c : EngineKey, a.compareSign b < 0 → b.compareSign c < 0 → a.compareSign c < 0) ∧
    (∀ a b : EngineKey, a.lt b = true ↔ a.compareSign b < 0) ∧
    (∀ (L : Type) (d : Dispatcher L), d.Reachable → d.Listed) ∧
    (∀ l : Loader, l.Built →
      l.descriptors.Perm l.table ∧ (l.descriptors.map (·.key)).Pairwise (fun a b => a.compare b = .lt)) :=
  ⟨EngineKey.compare_eq_lex, EngineKey.compareSign_cases, EngineKey.compareSign_swap,
    EngineKey.compareSign_eq_zero_iff, fun _ _ _ => EngineKey.compareSign_trans,
    EngineKey.lt_iff_compareSign, fun _ _ h => h.listed, fun _ h => h.keyed.descriptors⟩

end InferenceBroker
