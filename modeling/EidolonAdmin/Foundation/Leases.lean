import Mathlib.Data.List.MinMax
import EidolonAdmin.Foundation.Dict

/-! # A bounded table of leases

Leases stand in the order in which they were given. A new one first drops what has ended and then,
where the table is full, the first of those that end earliest. On a clock that does not go back and
with one term for all, that is the oldest one.
-/

namespace EidolonAdmin.Foundation.Leases

universe u v w

variable {κ : Type u} {ν : Type v} {τ : Type w} [DecidableEq κ] [LinearOrder τ] (deadline : ν → τ)

def live (now : τ) (leases : List (κ × ν)) : List (κ × ν) := leases.filter fun item => now < deadline item.2

def drop (key : κ) (leases : List (κ × ν)) : List (κ × ν) := leases.filter fun item => item.1 ≠ key

def room (capacity : Nat) (leases : List (κ × ν)) : List (κ × ν) :=
  if capacity ≤ leases.length then
    match leases.argmin fun item => deadline item.2 with
    | none => leases
    | some oldest => drop oldest.1 leases
  else leases

def give (capacity : Nat) (now : τ) (key : κ) (value : ν) (leases : List (κ × ν)) : List (κ × ν) :=
  Dict.set (room deadline capacity (live deadline now leases)) key value

/-- The lease under a key, which is dropped where it has ended. -/
def lookup (now : τ) (key : κ) (leases : List (κ × ν)) : Option ν × List (κ × ν) :=
  match Dict.get leases key with
  | none => (none, leases)
  | some value => if deadline value ≤ now then (none, drop key leases) else (some value, leases)

variable {deadline} {capacity : Nat} {now : τ} {key : κ} {value : ν} {leases : List (κ × ν)}

omit [DecidableEq κ] in
theorem live_sublist : (live deadline now leases).Sublist leases := List.filter_sublist

theorem drop_sublist : (drop key leases).Sublist leases := List.filter_sublist

theorem room_sublist : (room deadline capacity leases).Sublist leases := by
  unfold room
  split
  · split
    · exact List.Sublist.refl _
    · exact drop_sublist
  · exact List.Sublist.refl _

theorem lookup_sublist : (lookup deadline now key leases).2.Sublist leases := by
  unfold lookup
  split
  · exact List.Sublist.refl _
  · split
    · exact drop_sublist
    · exact List.Sublist.refl _

theorem lookup_eq_some (h : (lookup deadline now key leases).1 = some value) :
    (key, value) ∈ leases ∧ now < deadline value ∧ (lookup deadline now key leases).2 = leases := by
  unfold lookup at h ⊢
  cases hGet : Dict.get leases key with
  | none =>
    rw [hGet] at h
    cases h
  | some found =>
    simp only [hGet] at h ⊢
    split_ifs at h with hEnded
    cases h
    exact ⟨Dict.get_mem hGet, not_le.mp hEnded, by rw [if_neg hEnded]⟩

theorem lookup_of_mem (hUnique : (leases.map Prod.fst).Nodup) (hMem : (key, value) ∈ leases)
    (hLive : now < deadline value) : lookup deadline now key leases = (some value, leases) := by
  have hGet : Dict.get leases key = some value := (Dict.get_eq_some_iff hUnique).mpr hMem
  simp only [lookup, hGet, if_neg (not_le.mpr hLive)]

theorem mem_lookup (hUnique : (leases.map Prod.fst).Nodup) {item : κ × ν} (hMem : item ∈ leases)
    (hLive : now < deadline item.2) (other : κ) : item ∈ (lookup deadline now other leases).2 := by
  unfold lookup
  split
  · exact hMem
  · rename_i found hGet
    split
    · rename_i hEnded
      refine List.mem_filter.mpr ⟨hMem, decide_eq_true fun hSame => ?_⟩
      have hFound : Dict.get leases other = some item.2 :=
        (Dict.get_eq_some_iff hUnique).mpr (by rwa [← hSame])
      rw [hGet] at hFound
      cases hFound
      exact absurd hEnded (not_le.mpr hLive)
    · exact hMem

theorem mem_give {item : κ × ν} (h : item ∈ give deadline capacity now key value leases) :
    item = (key, value) ∨ item ∈ leases :=
  (Dict.mem_set.mp h).imp_right fun hOld => (room_sublist.trans live_sublist).subset hOld.1

theorem nodup_give (hUnique : (leases.map Prod.fst).Nodup) :
    ((give deadline capacity now key value leases).map Prod.fst).Nodup :=
  Dict.nodup_set (hUnique.sublist ((room_sublist.trans live_sublist).map _)) key value

theorem length_room (hPos : 0 < capacity) (h : leases.length ≤ capacity) :
    (room deadline capacity leases).length < capacity := by
  unfold room
  split_ifs with hFull
  · cases hOldest : leases.argmin fun item => deadline item.2 with
    | none =>
      rw [List.argmin_eq_none] at hOldest
      rw [hOldest] at hFull
      exact absurd hPos (Nat.not_lt.mpr hFull)
    | some oldest =>
      have hShorter : (drop oldest.1 leases).length < leases.length :=
        List.length_filter_lt_length_iff_exists.mpr ⟨oldest, List.argmin_mem hOldest, by simp⟩
      exact hShorter.trans_le h
  · exact not_le.mp hFull

theorem length_give (hPos : 0 < capacity) (h : leases.length ≤ capacity) :
    (give deadline capacity now key value leases).length ≤ capacity := by
  have hLive : (live deadline now leases).Sublist leases := live_sublist
  have hRoom : (room deadline capacity (live deadline now leases)).length < capacity :=
    length_room hPos (hLive.length_le.trans h)
  unfold give Dict.set
  split
  · rw [Table.updateWhere, List.length_map]
    exact hRoom.le
  · rw [List.length_append]
    exact hRoom

/-! ## The oldest goes first -/

def Behind (leases : List (κ × ν)) (item : κ × ν) (n : Nat) : Prop :=
  ∃ before after, leases = before ++ item :: after ∧ after.length ≤ n

def Ascending (deadline : ν → τ) (leases : List (κ × ν)) : Prop :=
  leases.Pairwise fun a b => deadline a.2 ≤ deadline b.2

omit [DecidableEq κ] in
theorem Behind.mem {item : κ × ν} {n : Nat} (h : Behind leases item n) : item ∈ leases := by
  obtain ⟨before, after, rfl, _⟩ := h
  exact List.mem_append_right _ List.mem_cons_self

omit [DecidableEq κ] in
theorem Behind.filter {item : κ × ν} {n : Nat} (h : Behind leases item n) {p : κ × ν → Bool} (hKept : p item = true) :
    Behind (leases.filter p) item n := by
  obtain ⟨before, after, rfl, hAfter⟩ := h
  refine ⟨before.filter p, after.filter p, ?_, (List.length_filter_le _ _).trans hAfter⟩
  rw [List.filter_append, List.filter_cons_of_pos hKept]

omit [DecidableEq κ] in
theorem argmin_eq_head (first : κ × ν) (rest : List (κ × ν)) (h : Ascending deadline (first :: rest)) :
    ((first :: rest).argmin fun item => deadline item.2) = some first := by
  rw [List.argmin_cons]
  cases hRest : rest.argmin fun item => deadline item.2 with
  | none => rfl
  | some earliest =>
    have hLe := (List.pairwise_cons.mp h).1 earliest (List.argmin_mem hRest)
    exact if_neg (not_lt.mpr hLe)

theorem behind_room (hUnique : (leases.map Prod.fst).Nodup) (hOrder : Ascending deadline leases) {item : κ × ν}
    {n : Nat} (h : Behind leases item n) (hFew : n + 1 < capacity) : Behind (room deadline capacity leases) item n := by
  obtain ⟨before, after, rfl, hAfter⟩ := h
  unfold room
  split_ifs with hFull
  · cases before with
    | nil =>
      rw [List.nil_append, List.length_cons] at hFull
      omega
    | cons first rest =>
      rw [List.cons_append] at hOrder hUnique ⊢
      rw [argmin_eq_head first _ hOrder]
      refine Behind.filter ⟨first :: rest, after, rfl, hAfter⟩ (decide_eq_true fun hSame => ?_)
      refine (List.nodup_cons.mp hUnique).1 (hSame ▸ List.mem_map_of_mem ?_)
      exact List.mem_append_right _ List.mem_cons_self
  · exact ⟨before, after, rfl, hAfter⟩

/-- A lease that has not ended stays when another key is given one, and has one more behind it. -/
theorem behind_give (hUnique : (leases.map Prod.fst).Nodup) (hOrder : Ascending deadline leases) {item : κ × ν}
    {n : Nat} (h : Behind leases item n) (hFew : n + 1 < capacity) (hLive : now < deadline item.2)
    (hNew : key ∉ leases.map Prod.fst) :
    Behind (give deadline capacity now key value leases) item (n + 1) := by
  have hKept : Behind (live deadline now leases) item n := h.filter (decide_eq_true hLive)
  obtain ⟨before, after, hSplit, hAfter⟩ := behind_room (hUnique.sublist (live_sublist.map _))
    (hOrder.sublist live_sublist) hKept hFew
  have hAbsent : key ∉ (room deadline capacity (live deadline now leases)).map Prod.fst :=
    fun hMem => hNew (((room_sublist.trans live_sublist).map _).subset hMem)
  rw [give, Dict.set_of_notMem hAbsent, hSplit]
  refine ⟨before, after ++ [(key, value)], ?_, ?_⟩
  · rw [List.append_assoc, List.cons_append]
  · rw [List.length_append]
    exact Nat.succ_le_succ hAfter

theorem behind_given (hNew : key ∉ leases.map Prod.fst) :
    Behind (give deadline capacity now key value leases) (key, value) 0 := by
  have hAbsent : key ∉ (room deadline capacity (live deadline now leases)).map Prod.fst :=
    fun hMem => hNew (((room_sublist.trans live_sublist).map _).subset hMem)
  rw [give, Dict.set_of_notMem hAbsent]
  exact ⟨_, [], rfl, le_rfl⟩

theorem ascending_give (hOrder : Ascending deadline leases) (hNew : key ∉ leases.map Prod.fst)
    (hLast : ∀ item ∈ leases, deadline item.2 ≤ deadline value) :
    Ascending deadline (give deadline capacity now key value leases) := by
  have hAbsent : key ∉ (room deadline capacity (live deadline now leases)).map Prod.fst :=
    fun hMem => hNew (((room_sublist.trans live_sublist).map _).subset hMem)
  rw [give, Dict.set_of_notMem hAbsent]
  refine List.pairwise_append.mpr ⟨hOrder.sublist (room_sublist.trans live_sublist), List.pairwise_singleton _ _, ?_⟩
  intro item hItem new hOne
  rw [List.mem_singleton.mp hOne]
  exact hLast item ((room_sublist.trans live_sublist).subset hItem)

end EidolonAdmin.Foundation.Leases
