import Mathlib.Data.List.Induction
import Mathlib.Data.List.Sort
import Mathlib.Tactic.Common

/-!
# Grouping by keys

A sorted map lists its entries in the order of their keys. Elements that are collected under their
keys, one by one, leave for every key a fold over its elements, whatever the keys around it. Groups
laid out one after another are found again by their offsets.
-/

namespace PointcloudAd.Library

section Entries

variable {κ ν : Type} [LinearOrder κ]

/-- Changes the value of a key. A key without a value gets its place, and a start to change. -/
def updateEntries (key : κ) (start : ν) (f : ν → ν) : List (κ × ν) → List (κ × ν)
  | [] => [(key, f start)]
  | entry :: entries =>
    if key < entry.1 then (key, f start) :: entry :: entries
    else if key = entry.1 then (key, f entry.2) :: entries
    else entry :: updateEntries key start f entries

variable {key : κ} {start : ν} {f : ν → ν}

theorem mem_keys_updateEntries {k : κ} {entries : List (κ × ν)} :
    k ∈ (updateEntries key start f entries).map Prod.fst ↔
      k = key ∨ k ∈ entries.map Prod.fst := by
  induction entries with
  | nil => simp [updateEntries]
  | cons entry entries ih =>
    unfold updateEntries
    split_ifs with hlt heq
    · simp
    · simp [heq]
    · rw [List.map_cons, List.mem_cons, ih, List.map_cons, List.mem_cons]
      tauto

theorem pairwise_updateEntries {entries : List (κ × ν)}
    (h : entries.Pairwise fun a b => a.1 < b.1) :
    (updateEntries key start f entries).Pairwise fun a b => a.1 < b.1 := by
  induction entries with
  | nil => simp [updateEntries]
  | cons entry entries ih =>
    obtain ⟨hfirst, hrest⟩ := List.pairwise_cons.mp h
    unfold updateEntries
    split_ifs with hlt heq
    · apply List.Pairwise.cons _ h
      intro other hother
      rcases List.mem_cons.mp hother with rfl | hother
      · exact hlt
      · exact hlt.trans (hfirst other hother)
    · apply List.Pairwise.cons _ hrest
      intro other hother
      rw [heq]
      exact hfirst other hother
    · apply List.Pairwise.cons _ (ih hrest)
      intro other hother
      rcases mem_keys_updateEntries.mp (List.mem_map_of_mem hother) with hkey | hkey
      · rw [hkey]
        exact lt_of_le_of_ne (not_lt.mp hlt) (Ne.symm heq)
      · obtain ⟨old, hold, hkey⟩ := List.mem_map.mp hkey
        rw [← hkey]
        exact hfirst old hold

theorem lookup_cons_if {k : κ} {entry : κ × ν} {entries : List (κ × ν)} :
    (entry :: entries).lookup k = if k = entry.1 then some entry.2 else entries.lookup k := by
  by_cases hk : k = entry.1
  · rw [List.lookup_cons, beq_iff_eq.mpr hk, if_pos hk]
  · rw [List.lookup_cons, beq_eq_false_iff_ne.mpr hk, if_neg hk]

theorem lookup_eq_none_of_lt {k : κ} {entries : List (κ × ν)} (h : ∀ entry ∈ entries, k < entry.1) :
    entries.lookup k = none := by
  apply List.lookup_eq_none_iff.mpr
  intro entry hentry
  simpa using (h entry hentry).ne

theorem lookup_updateEntries {entries : List (κ × ν)} (h : entries.Pairwise fun a b => a.1 < b.1)
    (k : κ) :
    (updateEntries key start f entries).lookup k =
      if k = key then some (f ((entries.lookup key).getD start)) else entries.lookup k := by
  induction entries with
  | nil => simp [updateEntries, lookup_cons_if]
  | cons entry entries ih =>
    obtain ⟨hfirst, hrest⟩ := List.pairwise_cons.mp h
    unfold updateEntries
    by_cases hlt : key < entry.1
    · have hnone : (entry :: entries).lookup key = none := by
        apply lookup_eq_none_of_lt
        intro other hother
        rcases List.mem_cons.mp hother with rfl | hother
        · exact hlt
        · exact hlt.trans (hfirst other hother)
      rw [if_pos hlt, lookup_cons_if, hnone, Option.getD_none]
    · by_cases heq : key = entry.1
      · rw [if_neg hlt, if_pos heq]
        simp only [lookup_cons_if, ← heq, if_true, Option.getD_some]
        by_cases hk : k = key <;> simp [hk]
      · rw [if_neg hlt, if_neg heq, lookup_cons_if, ih hrest, lookup_cons_if, if_neg heq]
        by_cases hk : k = key
        · rw [hk, if_neg heq, if_pos rfl, if_pos rfl]
        · rw [if_neg hk, if_neg hk, lookup_cons_if]

end Entries

/-- Entries in the strict order of their keys. -/
structure SortedMap (κ ν : Type) [LinearOrder κ] where
  entries : List (κ × ν)
  sorted : entries.Pairwise fun a b => a.1 < b.1

namespace SortedMap

variable {κ ν α : Type} [LinearOrder κ]

def empty : SortedMap κ ν := ⟨[], .nil⟩

def update (map : SortedMap κ ν) (key : κ) (start : ν) (f : ν → ν) : SortedMap κ ν :=
  ⟨updateEntries key start f map.entries, pairwise_updateEntries map.sorted⟩

def get? (map : SortedMap κ ν) (key : κ) : Option ν := map.entries.lookup key

def keys (map : SortedMap κ ν) : List κ := map.entries.map Prod.fst

theorem pairwise_keys (map : SortedMap κ ν) : map.keys.Pairwise (· < ·) :=
  List.pairwise_map.mpr map.sorted

theorem mem_keys_update {map : SortedMap κ ν} {key k : κ} {start : ν} {f : ν → ν} :
    k ∈ (map.update key start f).keys ↔ k = key ∨ k ∈ map.keys := mem_keys_updateEntries

theorem get?_update (map : SortedMap κ ν) (key k : κ) (start : ν) (f : ν → ν) :
    (map.update key start f).get? k =
      if k = key then some (f ((map.get? key).getD start)) else map.get? k :=
  lookup_updateEntries map.sorted k

theorem get?_of_mem {map : SortedMap κ ν} {entry : κ × ν} (h : entry ∈ map.entries) :
    map.get? entry.1 = some entry.2 := by
  obtain ⟨entries, hsorted⟩ := map
  unfold get?
  dsimp only at h ⊢
  induction entries with
  | nil => cases h
  | cons first entries ih =>
    obtain ⟨hfirst, hrest⟩ := List.pairwise_cons.mp hsorted
    rcases List.mem_cons.mp h with rfl | h
    · exact List.lookup_cons_self
    · rw [lookup_cons_if, if_neg (hfirst entry h).ne']
      exact ih hrest h

/-- Every element is added to the value of its key. -/
def collect (key : α → κ) (start : ν) (step : ν → α → ν) (l : List α) : SortedMap κ ν :=
  l.foldl (fun map a => map.update (key a) start fun value => step value a) empty

section Collect

variable (key : α → κ) (start : ν) (step : ν → α → ν)

theorem collect_concat (l : List α) (a : α) :
    collect key start step (l ++ [a]) =
      (collect key start step l).update (key a) start fun value => step value a := by
  unfold collect
  rw [List.foldl_concat]

theorem mem_keys_collect {k : κ} {l : List α} :
    k ∈ (collect key start step l).keys ↔ ∃ a ∈ l, key a = k := by
  induction l using List.reverseRecOn with
  | nil => simp [collect, keys, empty]
  | append_singleton l a ih =>
    rw [collect_concat, mem_keys_update, ih]
    simp only [List.mem_append, List.mem_singleton, or_and_right, exists_or, exists_eq_left]
    rw [or_comm, eq_comm]

/-- The value of a key is a fold over its elements, in their order. -/
theorem get?_collect (k : κ) (l : List α) :
    (collect key start step l).get? k =
      if ∃ a ∈ l, key a = k then some ((l.filter fun a => key a = k).foldl step start)
      else none := by
  induction l using List.reverseRecOn with
  | nil => simp [collect, get?, empty]
  | append_singleton l a ih =>
    rw [collect_concat, get?_update]
    by_cases hk : k = key a
    · subst hk
      have hfilter : ((collect key start step l).get? (key a)).getD start =
          (l.filter fun b => key b = key a).foldl step start := by
        rw [ih]
        split_ifs with hex
        · rfl
        · have hnil : (l.filter fun b => key b = key a) = [] := by
            apply List.filter_eq_nil_iff.mpr
            intro b hb
            simpa using fun he => hex ⟨b, hb, he⟩
          rw [hnil]
          rfl
      rw [if_pos rfl, hfilter, if_pos ⟨a, by simp, rfl⟩, List.filter_append, List.foldl_append]
      simp
    · have hmem : (∃ b ∈ l ++ [a], key b = k) ↔ ∃ b ∈ l, key b = k := by
        simp [or_and_right, exists_or, Ne.symm hk]
      have hfilter : ((l ++ [a]).filter fun b => key b = k) = l.filter fun b => key b = k := by
        rw [List.filter_append]
        simp [Ne.symm hk]
      rw [if_neg hk, ih, hfilter]
      simp only [hmem]

theorem entries_collect (l : List α) :
    (collect key start step l).entries = (collect key start step l).keys.map fun k =>
      (k, (l.filter fun a => key a = k).foldl step start) := by
  unfold keys
  rw [List.map_map]
  symm
  apply List.map_congr_left (g := id) _ |>.trans (List.map_id _)
  intro entry hentry
  have hvalue := get?_of_mem hentry
  have hkey : ∃ a ∈ l, key a = entry.1 :=
    (mem_keys_collect key start step).mp (List.mem_map_of_mem hentry)
  rw [get?_collect, if_pos hkey] at hvalue
  exact Prod.ext rfl (Option.some.inj hvalue)

end Collect

end SortedMap

section Groups

variable {α κ : Type}

/-- The position of every group in their concatenation, and its end. -/
def groupOffsets (groups : List (List α)) : List ℕ :=
  (List.range (groups.length + 1)).map fun k => (groups.take k).flatten.length

theorem length_groupOffsets (groups : List (List α)) :
    (groupOffsets groups).length = groups.length + 1 := by
  simp [groupOffsets]

theorem getElem?_groupOffsets {groups : List (List α)} {k : ℕ} (hk : k ≤ groups.length) :
    (groupOffsets groups)[k]? = some (groups.take k).flatten.length := by
  simp [groupOffsets, Nat.lt_succ_of_le hk]

theorem groupOffsets_concat (groups : List (List α)) (group : List α) :
    groupOffsets (groups ++ [group]) =
      groupOffsets groups ++ [(groups ++ [group]).flatten.length] := by
  unfold groupOffsets
  rw [List.length_append, List.length_singleton, List.range_succ, List.map_append]
  congr 1
  · apply List.map_congr_left
    intro k hk
    rw [List.mem_range] at hk
    rw [List.take_append_of_le_length (by omega)]
  · rw [List.map_singleton, List.take_of_length_le (by simp)]

theorem pairwise_groupOffsets {groups : List (List α)} (h : ∀ group ∈ groups, group ≠ []) :
    (groupOffsets groups).Pairwise (· < ·) := by
  induction groups using List.reverseRecOn with
  | nil => simp [groupOffsets]
  | append_singleton groups group ih =>
    have hgroup : 0 < group.length := List.length_pos_iff.mpr (h group (by simp))
    rw [groupOffsets_concat]
    apply List.pairwise_append.mpr
    refine ⟨ih fun other hother => h other (by simp [hother]), List.pairwise_singleton _ _, ?_⟩
    intro offset hoffset last hlast
    obtain ⟨k, -, rfl⟩ := List.mem_map.mp hoffset
    have hle : (groups.take k).flatten.length ≤ groups.flatten.length := by
      conv_rhs => rw [← List.take_append_drop k groups, List.flatten_append, List.length_append]
      exact Nat.le_add_right ..
    rw [List.mem_singleton.mp hlast, List.flatten_append, List.length_append]
    simp only [List.flatten_cons, List.flatten_nil, List.append_nil]
    omega

theorem take_drop_flatten {groups : List (List α)} {k : ℕ} {group : List α}
    (h : groups[k]? = some group) :
    (groups.flatten.drop (groups.take k).flatten.length).take
      ((groups.take (k + 1)).flatten.length - (groups.take k).flatten.length) = group := by
  obtain ⟨hk, rfl⟩ := List.getElem?_eq_some_iff.mp h
  have hsplit : groups.flatten =
      (groups.take k).flatten ++ (groups[k] ++ (groups.drop (k + 1)).flatten) := by
    conv_lhs => rw [← List.take_append_drop k groups, List.drop_eq_getElem_cons hk]
    rw [List.flatten_append, List.flatten_cons]
  have hend : (groups.take (k + 1)).flatten.length =
      (groups.take k).flatten.length + groups[k].length := by
    rw [List.take_succ_eq_append_getElem hk, List.flatten_append, List.length_append]
    simp
  rw [hend, hsplit, List.drop_left, Nat.add_sub_cancel_left, List.take_left]

/-- The groups of distinct keys that cover those of all elements hold every element once. -/
theorem perm_flatMap_filter [DecidableEq κ] (key : α → κ) :
    ∀ {keys : List κ} {l : List α}, keys.Nodup → (∀ a ∈ l, key a ∈ keys) →
      (keys.flatMap fun k => l.filter fun a => key a = k).Perm l
  | [], l, _, hcover => by
    cases l with
    | nil => simp
    | cons a l => cases hcover a (by simp)
  | k :: keys, l, hnodup, hcover => by
    obtain ⟨hnotin, hrest⟩ := List.nodup_cons.mp hnodup
    have hothers : (keys.flatMap fun k' => l.filter fun a => key a = k') =
        keys.flatMap fun k' => (l.filter fun a => ¬ key a = k).filter fun a => key a = k' := by
      apply List.flatMap_congr
      intro k' hk'
      rw [List.filter_filter]
      apply List.filter_congr
      intro a _
      by_cases he : key a = k'
      · have hne : key a ≠ k := by
          rintro rfl
          exact hnotin (he ▸ hk')
        rw [decide_eq_true he, decide_eq_true hne, Bool.and_self]
      · rw [decide_eq_false he, Bool.false_and]
    have ih := perm_flatMap_filter key hrest (l := l.filter fun a => ¬ key a = k) (by
      intro a ha
      obtain ⟨hal, hne⟩ := List.mem_filter.mp ha
      exact (List.mem_cons.mp (hcover a hal)).resolve_left (by simpa using hne))
    rw [List.flatMap_cons, hothers]
    refine (ih.append_left _).trans ?_
    simpa using List.filter_append_perm (fun a => decide (key a = k)) l

end Groups

end PointcloudAd.Library
