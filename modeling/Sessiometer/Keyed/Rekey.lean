import Mathlib.Data.List.Nodup

/-! # Vectors kept beside a keyed list

A list of elements with keys, and beside it a vector with one slot for each. When the list is
replaced, the vector is built anew: an element whose key persists brings its slot along, a new one
starts with a fresh slot. Keys, not positions, say which slot is whose. -/

namespace Keyed

universe u v w

variable {α : Type u} {κ : Type v} {β : Type w} [DecidableEq κ] (key : α → κ)

/-- The first position under a key. -/
def position (l : List α) (k : κ) : Option ℕ := l.findIdx? (fun a => key a == k)

/-- The slot under a key. -/
def valueAt (l : List α) (slots : List β) (k : κ) : Option β :=
  (position key l k).bind (fun i => slots[i]?)

/-- The slot that an element starts with: the one under its key, or a fresh one. Nothing, where the
vector is too short for the position. -/
def slotFor (old : List α) (slots : List β) (fresh : α → β) (a : α) : Option β :=
  match position key old (key a) with
  | some i => slots[i]?
  | none => some (fresh a)

def rekey (old : List α) (slots : List β) (fresh : α → β) : List α → Option (List β)
  | [] => some []
  | a :: rest => do
    let slot ← slotFor key old slots fresh a
    let slots' ← rekey old slots fresh rest
    pure (slot :: slots')

section Position

variable {key} {l : List α} {k : κ} {i : ℕ}

theorem getElem?_of_position (h : position key l k = some i) :
    ∃ a, l[i]? = some a ∧ key a = k := by
  obtain ⟨hlt, hp, -⟩ := List.findIdx?_eq_some_iff_getElem.mp h
  exact ⟨l[i], List.getElem?_eq_getElem hlt, eq_of_beq hp⟩

theorem position_lt (h : position key l k = some i) : i < l.length :=
  (List.findIdx?_eq_some_iff_getElem.mp h).1

theorem position_eq_none_iff : position key l k = none ↔ k ∉ l.map key := by
  unfold position
  rw [List.findIdx?_eq_none_iff, List.mem_map]
  constructor
  · rintro h ⟨a, ha, rfl⟩
    have := h a ha
    simp at this
  · intro h a ha
    exact beq_eq_false_iff_ne.mpr (fun hk => h ⟨a, ha, hk⟩)

/-- Where no key occurs twice, an element is found at its own position. -/
theorem position_of_getElem? {a : α} (hd : (l.map key).Nodup) (h : l[i]? = some a) :
    position key l (key a) = some i := by
  cases hp : position key l (key a) with
  | none => exact absurd (List.mem_map_of_mem (List.mem_of_getElem? h)) (position_eq_none_iff.mp hp)
  | some j =>
    obtain ⟨b, hb, hkey⟩ := getElem?_of_position hp
    have hi : (l.map key)[i]? = some (key a) := by rw [List.getElem?_map, h]; rfl
    have hj : (l.map key)[j]? = some (key a) := by rw [List.getElem?_map, hb, ← hkey]; rfl
    have hlt : i < (l.map key).length := (List.getElem?_eq_some_iff.mp hi).1
    rw [(List.getElem?_inj hlt hd).mp (hi.trans hj.symm)]

end Position

section Rekey

variable {key} {old new : List α} {slots slots' : List β} {fresh : α → β}

theorem slotFor_isSome (hlen : slots.length = old.length) (a : α) :
    ∃ slot, slotFor key old slots fresh a = some slot := by
  unfold slotFor
  cases hp : position key old (key a) with
  | none => exact ⟨_, rfl⟩
  | some i =>
    have hlt : i < slots.length := by
      rw [hlen]
      exact position_lt hp
    exact ⟨slots[i], List.getElem?_eq_getElem hlt⟩

/-- With a slot for every old element there is one for every new element. -/
theorem exists_rekey (hlen : slots.length = old.length) (new : List α) :
    ∃ slots', rekey key old slots fresh new = some slots' := by
  induction new with
  | nil => exact ⟨[], rfl⟩
  | cons a rest ih =>
    obtain ⟨slot, hslot⟩ : ∃ slot, slotFor key old slots fresh a = some slot :=
      slotFor_isSome hlen a
    obtain ⟨slots', hslots'⟩ := ih
    exact ⟨slot :: slots', by simp [rekey, hslot, hslots']⟩

theorem rekey_cons {a : α} (h : rekey key old slots fresh (a :: new) = some slots') :
    ∃ slot rest, slots' = slot :: rest ∧ slotFor key old slots fresh a = some slot ∧
      rekey key old slots fresh new = some rest := by
  unfold rekey at h
  obtain ⟨slot, hslot, h⟩ := Option.bind_eq_some_iff.mp h
  obtain ⟨rest, hrest, h⟩ := Option.bind_eq_some_iff.mp h
  cases h
  exact ⟨slot, rest, rfl, hslot, hrest⟩

theorem length_rekey (h : rekey key old slots fresh new = some slots') :
    slots'.length = new.length := by
  induction new generalizing slots' with
  | nil =>
    cases h
    rfl
  | cons a new ih =>
    obtain ⟨slot, rest, rfl, -, hrest⟩ := rekey_cons h
    rw [List.length_cons, List.length_cons, ih hrest]

theorem getElem?_rekey (h : rekey key old slots fresh new = some slots') (i : ℕ) :
    slots'[i]? = new[i]?.bind (slotFor key old slots fresh) := by
  induction new generalizing slots' i with
  | nil =>
    cases h
    rfl
  | cons a new ih =>
    obtain ⟨slot, rest, rfl, hslot, hrest⟩ := rekey_cons h
    cases i with
    | zero => exact hslot.symm
    | succ i => exact ih hrest i

/-- A key that persists brings its slot along. -/
theorem valueAt_rekey {k : κ} (h : rekey key old slots fresh new = some slots')
    (hk : k ∈ new.map key) (hold : k ∈ old.map key) :
    valueAt key new slots' k = valueAt key old slots k := by
  unfold valueAt
  cases hp : position key new k with
  | none => exact absurd hk (position_eq_none_iff.mp hp)
  | some j =>
    obtain ⟨a, ha, rfl⟩ := getElem?_of_position hp
    rw [Option.bind_some, getElem?_rekey h, ha, Option.bind_some]
    unfold slotFor
    cases hi : position key old (key a) with
    | none => exact absurd hold (position_eq_none_iff.mp hi)
    | some i => rfl

/-- A new key starts afresh. -/
theorem valueAt_rekey_fresh {k : κ} (h : rekey key old slots fresh new = some slots')
    (hk : k ∈ new.map key) (hold : k ∉ old.map key) :
    ∃ a ∈ new, key a = k ∧ valueAt key new slots' k = some (fresh a) := by
  unfold valueAt
  cases hp : position key new k with
  | none => exact absurd hk (position_eq_none_iff.mp hp)
  | some j =>
    obtain ⟨a, ha, rfl⟩ := getElem?_of_position hp
    refine ⟨a, List.mem_of_getElem? ha, rfl, ?_⟩
    rw [Option.bind_some, getElem?_rekey h, ha, Option.bind_some]
    unfold slotFor
    rw [position_eq_none_iff.mpr hold]

/-- There and back again, every key that was never gone has the slot it had. -/
theorem valueAt_rekey_rekey {mid : List α} {slots₁ slots₂ : List β} {k : κ}
    (h₁ : rekey key old slots fresh mid = some slots₁)
    (h₂ : rekey key mid slots₁ fresh old = some slots₂) (hold : k ∈ old.map key)
    (hmid : k ∈ mid.map key) : valueAt key old slots₂ k = valueAt key old slots k := by
  rw [valueAt_rekey h₂ hold hmid, valueAt_rekey h₁ hmid hold]

/-- Where no key occurs twice, the slot beside an element is the one under its key. -/
theorem getElem?_eq_valueAt {l : List α} {i : ℕ} {a : α} (hd : (l.map key).Nodup)
    (h : l[i]? = some a) (slots : List β) : slots[i]? = valueAt key l slots (key a) := by
  unfold valueAt
  rw [position_of_getElem? hd h, Option.bind_some]

/-- Slots that are labelled with the keys they were made for stay beside them. -/
theorem rekey_keys : rekey key old (old.map key) key new = some (new.map key) := by
  induction new with
  | nil => rfl
  | cons a new ih =>
    have hslot : slotFor key old (old.map key) key a = some (key a) := by
      unfold slotFor
      cases hp : position key old (key a) with
      | none => rfl
      | some i =>
        obtain ⟨b, hb, hkey⟩ := getElem?_of_position hp
        dsimp only
        rw [List.getElem?_map, hb, ← hkey]
        rfl
    simp [rekey, hslot, ih]

end Rekey

end Keyed
