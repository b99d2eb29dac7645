import Mathlib.Data.List.Induction

/-! # What a counterpart has said of values by key

It reports the values of all keys at once, or acknowledges those of some that it was given. What it
said last of each key is what stands. -/

namespace Keyed

universe u v

/-- Values by key. -/
abbrev Table (κ : Type u) (ν : Type v) := κ → Option ν

variable {κ : Type u} {ν : Type v}

/-- The first table where it has a value, the second elsewhere. -/
def overlaid (upper base : Table κ ν) : Table κ ν := fun k => (upper k).or (base k)

inductive Notice (κ : Type u) (ν : Type v) where
  | reported (all : Table κ ν)
  | acknowledged (carried : Table κ ν)

namespace Notice

def apply : Notice κ ν → Table κ ν → Table κ ν
  | .reported all, _ => all
  | .acknowledged carried, known => overlaid carried known

/-- The notice gives the value under the key. -/
def Gives (k : κ) (v : ν) : Notice κ ν → Prop
  | .reported all => all k = some v
  | .acknowledged carried => carried k = some v

end Notice

/-- What was said last of each key. -/
def told (notices : List (Notice κ ν)) : Table κ ν :=
  notices.foldl (fun known notice => notice.apply known) fun _ => none

variable {notices : List (Notice κ ν)} {k : κ} {v : ν}

theorem told_nil : told ([] : List (Notice κ ν)) = fun _ => none := rfl

theorem told_append_singleton (notice : Notice κ ν) :
    told (notices ++ [notice]) = notice.apply (told notices) := by
  simp [told]

/-- A value that stands was given by some notice. -/
theorem gives_of_told (h : told notices k = some v) : ∃ n ∈ notices, n.Gives k v := by
  induction notices using List.reverseRecOn with
  | nil => simp [told_nil] at h
  | append_singleton notices notice ih =>
    rw [told_append_singleton] at h
    by_cases hlast : notice.Gives k v
    · exact ⟨notice, by simp, hlast⟩
    · have hbefore : told notices k = some v := by
        cases notice with
        | reported all => exact absurd h hlast
        | acknowledged carried =>
          have h : (carried k).or (told notices k) = some v := h
          cases hcarried : carried k with
          | none => simpa [hcarried] using h
          | some w =>
            rw [hcarried] at h
            exact absurd (hcarried.trans (by simpa using h)) hlast
      obtain ⟨n, hn, hgives⟩ := ih hbefore
      exact ⟨n, by simp [hn], hgives⟩

end Keyed
