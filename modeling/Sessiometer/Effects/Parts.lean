import Sessiometer.Effects.Rules

/-! # Parts of a program

A part that keeps to one of two interfaces is reasoned about on its own, on the part of the state that it
works on. -/

namespace Effects

universe u v

variable {S T : Interface.{u}} {W V : Type v} {α β : Type u}
variable {D G : Device S W} {E G' : Device (S.sum T) V} {part : V → W} {frame : V → V → Prop}

/-- What is shown of the part alone holds of it in the whole, where the frame is kept besides. -/
theorem wp_left (hrefl : ∀ v, frame v v)
    (htrans : ∀ {v v' v''}, frame v v' → frame v' v'' → frame v v'')
    (hE : ∀ {o v} {r : S.Reply o} {v'}, E (.inl o) v r v' → D o (part v) r (part v') ∧ frame v v')
    (hG : ∀ {o v} {r : S.Reply o} {v'},
      E (.inl o) v r v' → G o (part v) r (part v') → G' (.inl o) v r v')
    {p : Prog S α} {v : V} {Q : α → W → Prop} {Q' : α → V → Prop} (h : wp D G p (part v) Q)
    (hQ : ∀ a v', Q a (part v') → frame v v' → Q' a v') : wp E G' (p.left T) v Q' := by
  induction p generalizing v with
  | pure a => exact hQ a v h (hrefl v)
  | perform o k ih =>
    intro r v' he
    obtain ⟨hd, hframe⟩ := hE he
    obtain ⟨hg, hrest⟩ := h r (part v') hd
    exact ⟨hG he hg, ih r hrest fun a v'' hq hf => hQ a v'' hq (htrans hframe hf)⟩

section Failure

variable {ε ε' : Type u} {w : W}

theorem run_adapt {wrap : ε → ε'} {p : ExceptT ε (Prog S) α} :
    (ExceptT.adapt wrap p).run = p.run >>= fun r => pure (r.mapError wrap) := by
  rw [← map_eq_pure_bind]
  rfl

theorem wp_adapt {wrap : ε → ε'} {p : ExceptT ε (Prog S) α} {Q : Except ε' α → W → Prop} :
    wp D G (ExceptT.adapt wrap p).run w Q ↔ wp D G p.run w (fun r w' => Q (r.mapError wrap) w') := by
  rw [run_adapt, wp_bind]
  rfl

theorem exec_adapt {wrap : ε → ε'} {p : ExceptT ε (Prog S) α} {w' : W} {r : Except ε α}
    (h : Exec D p.run w r w') : Exec D (ExceptT.adapt wrap p).run w (r.mapError wrap) w' := by
  rw [run_adapt]
  exact exec_bind_iff.mpr ⟨r, w', h, exec_pure_iff.mpr ⟨rfl, rfl⟩⟩

/-- A program of which nothing is asked. -/
theorem wp_any (p : Prog S α) (w : W) : wp D anything p w (fun _ _ => True) :=
  wp_of_forall (fun _ _ _ _ _ => trivial) w

/-- What holds of every failure and of all that the rest returns. -/
theorem returns_except_bind {P : Except ε β → Prop} {p : ExceptT ε (Prog S) α}
    {f : α → ExceptT ε (Prog S) β} (he : ∀ e, P (.error e)) (hf : ∀ a, Returns P (f a).run) :
    Returns P (p >>= f).run := by
  rw [ExceptT.run_bind, returns_bind]
  apply returns_of_forall
  intro r
  cases r with
  | error e => exact he e
  | ok a => exact hf a

end Failure

end Effects
