import Stencil.Proofs.Pipeline.Failure

/-!
Notes are written and never read. A computation that goes on from some notes comes to the result that it comes
to from none, and leaves the notes that were there as they are, with its own behind them (`OnlyAdds`). Nothing
that a run is made of does otherwise: not the replies, not a scan with them, and not what catches an error and
takes a note of it. So one may speak of the result of a run without saying what was noted before.
-/

namespace Stencil

/-- A computation does not look at the notes that are there, and puts its own behind them. -/
def OnlyAdds {α : Type} (computation : StateM (List Note) α) : Prop :=
  ∀ notes, computation.run notes = ((computation.run []).1, notes ++ (computation.run []).2)

namespace OnlyAdds

variable {α β : Type}

theorem pure (a : α) : OnlyAdds (Pure.pure a : StateM (List Note) α) := by
  intro notes
  show (a, notes) = (a, notes ++ [])
  rw [List.append_nil]

theorem note (n : Note) : OnlyAdds (note n) := by
  intro notes
  rfl

theorem bind {computation : StateM (List Note) α} {next : α → StateM (List Note) β}
    (h : OnlyAdds computation) (hnext : ∀ a, OnlyAdds (next a)) : OnlyAdds (computation >>= next) := by
  intro notes
  rw [StateT.run_bind, StateT.run_bind, h notes]
  show (next _).run _ = (((next _).run _).1, notes ++ ((next _).run _).2)
  rw [hnext, hnext _ (computation.run []).2, List.append_assoc]

/-- What comes of a computation that goes on does not depend on what was noted on the way. -/
theorem result_bind {computation : StateM (List Note) α} {next : α → StateM (List Note) β}
    (hnext : ∀ a, OnlyAdds (next a)) :
    ((computation >>= next).run []).1 = ((next (computation.run []).1).run []).1 := by
  rw [StateT.run_bind]
  show ((next _).run _).1 = _
  rw [hnext]

end OnlyAdds

/-! ### Computations that may fail -/

namespace Noted

variable {ε δ α β : Type} {computation : Noted ε α}

theorem run_of_onlyAdds (h : OnlyAdds computation.run) (notes : List Note) :
    computation.run.run notes = (computation.outcome.1, notes ++ computation.outcome.2) :=
  h notes

theorem onlyAdds_pure (a : α) : OnlyAdds (pure a : Noted ε α).run :=
  OnlyAdds.pure _

theorem onlyAdds_throw (error : ε) : OnlyAdds (throw error : Noted ε α).run :=
  OnlyAdds.pure _

theorem onlyAdds_bind {next : α → Noted ε β} (h : OnlyAdds computation.run)
    (hnext : ∀ a, OnlyAdds (next a).run) : OnlyAdds (computation >>= next).run := by
  rw [ExceptT.run_bind]
  refine h.bind ?_
  rintro (error | a)
  · exact OnlyAdds.pure _
  · exact hnext a

theorem onlyAdds_note (n : Note) : OnlyAdds (note n : Noted ε Unit).run :=
  (OnlyAdds.note n).bind fun _ => OnlyAdds.pure _

theorem onlyAdds_mapM {f : α → Noted ε β} (h : ∀ a, OnlyAdds (f a).run) (members : List α) :
    OnlyAdds (members.mapM f).run := by
  induction members with
  | nil => exact onlyAdds_pure []
  | cons member members ih =>
    rw [List.mapM_cons]
    exact onlyAdds_bind (h member) fun _ => onlyAdds_bind ih fun _ => onlyAdds_pure _

theorem onlyAdds_adapt (h : OnlyAdds computation.run) (f : ε → δ) :
    OnlyAdds (computation.adapt f).run := by
  intro notes
  show ((computation.run.run notes).1.mapError f, (computation.run.run notes).2) = _
  rw [h notes]
  rfl

theorem onlyAdds_reporting (h : OnlyAdds computation.run) (message : ε → String) :
    OnlyAdds (computation.reporting message).run := by
  rw [reporting_eq]
  refine h.bind ?_
  rintro (error | a)
  · exact (OnlyAdds.note _).bind fun _ => OnlyAdds.pure _
  · exact OnlyAdds.pure _

end Noted

/-! ### Passes and runs -/

theorem Lookup.onlyAdds_noted {ε : Type} (lookup : Lookup) (content : Text) :
    OnlyAdds (lookup.noted content : Noted ε Text).run := by
  rw [Lookup.noted]
  split
  · exact Noted.onlyAdds_bind (Noted.onlyAdds_note _) fun _ => Noted.onlyAdds_pure _
  · exact Noted.onlyAdds_pure _

theorem Inclusion.onlyAdds_noted (inclusion : Inclusion) (world : World) (content : Text) :
    OnlyAdds (inclusion.noted world content).run := by
  rw [Inclusion.noted]
  split
  · exact Noted.onlyAdds_pure _
  · split
    · exact Noted.onlyAdds_bind (Noted.onlyAdds_note _) fun _ => Noted.onlyAdds_throw _
    · exact Noted.onlyAdds_throw _

theorem Markers.onlyAdds_fill {ε : Type} (markers : Markers) {reply : Text → Noted ε Text}
    (h : ∀ content, OnlyAdds (reply content).run) (text : Text) :
    OnlyAdds (markers.fill reply text).run := by
  rw [Markers.fill_eq_assemble]
  exact Noted.onlyAdds_bind (Noted.onlyAdds_mapM h _) fun _ => Noted.onlyAdds_pure _

theorem Plan.onlyAdds_run (plan : Plan) (world : World) (vars : Option Variables) (text : Text) :
    OnlyAdds (plan.run world vars text).run := by
  rw [Plan.run]
  refine Noted.onlyAdds_bind (plan.markers.onlyAdds_fill (plan.lookup vars).onlyAdds_noted text) ?_
  intro filled
  split
  · exact Noted.onlyAdds_pure _
  · next markers inclusion _ =>
    exact markers.onlyAdds_fill (inclusion.onlyAdds_noted world) filled

theorem onlyAdds_attempt (world : World) (settings : Settings) (withFiles : Bool)
    (vars : Option Variables) (text : Text) :
    OnlyAdds (attempt world settings withFiles vars text).run := by
  rw [attempt]
  split
  · exact Noted.onlyAdds_throw _
  · next plan _ => exact Noted.onlyAdds_adapt (plan.onlyAdds_run world vars text) RunError.inclusion

theorem onlyAdds_process (world : World) (settings : Settings) (withFiles : Bool)
    (vars : Option Variables) (text : Text) :
    OnlyAdds (process world settings withFiles vars text).run :=
  Noted.onlyAdds_reporting (onlyAdds_attempt world settings withFiles vars text) _

end Stencil
