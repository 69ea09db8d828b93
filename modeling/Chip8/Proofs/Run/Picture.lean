import Chip8.Proofs.Run.Repaint
import Mathlib.Data.List.Induction

/-!
# Pictures

The picture shown last is the display, or else the display is pending.  A tick that goes through
shows at most one picture, and shows one exactly when a cycle of it changed the display or a picture
was pending.
-/

namespace Chip8.Runner

open Chip8.Action (Keeps run_bind)

variable {δ : Type} {stepped : List Machine} {before after : Runner (Watched δ)}

/-- The machines that the cycles of a tick step, one after the other. -/
def steppedIn [Frontend δ] (runner : Runner δ) (round : Round δ) : List Machine :=
  match (outset round.clock).run.run (runner.prepare round) with
  | (.ok (some (count, _)), reached) => reached.console.steppedAll round.others count
  | _ => []

variable [Frontend δ]

theorem repainted_outset (clock : Action (Host δ) Float) :
    Keeps (Repainted []) (outset (Host.watch clock)) :=
  keeps_outset (Repainted []) .trans .refl (keeps_watch _) (keeps_watch clock)
    (fun _ => .rest rfl rfl rfl) fun _ _ => .rest rfl rfl rfl

theorem repainted_measure (now : Float) : Keeps (Repainted (δ := δ) []) (measure now) :=
  keeps_measure (Repainted []) .trans .refl (fun _ _ => .rest rfl rfl rfl)
    (fun _ => keeps_watch _) now

inductive Presented (before : Runner (Watched δ)) :
    Except HostError Unit × Runner (Watched δ) → Prop where
  | painted {outcome : Except HostError Unit} {after : Runner (Watched δ)}
      (painted : Painted before after) : Presented before (outcome, after)
  | refused {error : HostError} {after : Runner (Watched δ)} {display : Display} {host : Host δ}
      (failed : after.host.device.showing.failed = true)
      (raised : ((Frontend.draw display).run.run host).1 = .error error) :
      Presented before (.error error, after)

theorem run_draw (display : Display) (runner : Runner (Watched δ)) :
    (onHost (Frontend.draw display)).run.run runner =
      let drawn := (Frontend.draw display).run.run runner.host.unwatched
      (drawn.1, { runner with
        host := drawn.2.watched (runner.host.device.showing.add display drawn.1) }) := rfl

theorem presented_draw {display : Display} {runner : Runner (Watched δ)}
    (pending : runner.pending = some display) :
    Presented runner ((onHost (Frontend.draw display) >>= fun _ =>
      modify fun runner => { runner with pending := none }).run.run runner) := by
  rw [run_bind, run_draw]
  cases ran : (Frontend.draw display).run.run runner.host.unwatched with
  | mk outcome plain =>
      cases outcome with
      | error error => exact .refused (Bool.or_true _) (congrArg Prod.fst ran)
      | ok _ =>
          refine .painted ⟨rfl, rfl, ?_⟩
          rw [pending]
          exact Showing.add_ok _ display

theorem presented_paint (runner : Runner (Watched δ)) :
    Presented runner (paint.run.run runner) := by
  rw [paint, Action.run_get]
  cases pending : runner.pending with
  | none =>
      refine .painted ⟨pending, rfl, ?_⟩
      rw [pending, Option.toList_none, List.append_nil]
  | some display => exact presented_draw pending

theorem presented_paint_measure (now : Float) (runner : Runner (Watched δ)) :
    Presented runner ((paint >>= fun _ => measure now).run.run runner) := by
  have presented := presented_paint runner
  rw [run_bind]
  generalize paint.run.run runner = ended at presented
  cases presented with
  | refused failed raised => exact .refused failed raised
  | @painted outcome after painted =>
      cases outcome with
      | error error => exact .painted painted
      | ok _ => exact .painted (painted.trans (repainted_measure now after))

/-- What can come of a tick, as far as pictures go. -/
inductive Ticked (round : Round δ) (before : Runner (Watched δ)) :
    Except HostError Unit × Runner (Watched δ) → Prop where
  | quit {after : Runner (Watched δ)}
      (polled : (Frontend.poll.run.run (before.prepare round.watched).host).1 = .ok false)
      (same : Repainted [] before after) : Ticked round before (.ok (), after)
  | broken {error : HostError} {after : Runner (Watched δ)}
      (repainted : Repainted (before.steppedIn round.watched) before after) :
      Ticked round before (.error error, after)
  | worked {between : Runner (Watched δ)} {ended : Except HostError Unit × Runner (Watched δ)}
      (repainted : Repainted (before.steppedIn round.watched) before between)
      (presented : Presented between ended) : Ticked round before ended

theorem ticked_ticked (before : Runner (Watched δ)) (round : Round δ) :
    Ticked round before (before.ticked round.watched) := by
  have prepared : Repainted [] before (before.prepare round.watched) := .rest rfl rfl rfl
  have start : Repainted [] before
      ((outset round.watched.clock).run.run (before.prepare round.watched)).2 :=
    prepared.trans (repainted_outset round.clock _)
  have quits (ended : ((outset round.watched.clock).run.run (before.prepare round.watched)).1 =
      .ok none) := polled_of_outset ended
  rw [ticked, tick_eq, run_bind]
  cases ran : (outset round.watched.clock).run.run (before.prepare round.watched) with
  | mk outcome reached =>
      rw [ran] at start quits
      match outcome with
      | .error error =>
          have stepped : before.steppedIn round.watched = [] := by rw [steppedIn, ran]
          exact .broken (by rw [stepped]; exact start)
      | .ok none => exact .quit (quits rfl) (start.trans (.rest rfl rfl rfl))
      | .ok (some (count, now)) =>
          have stepped : before.steppedIn round.watched =
              reached.console.steppedAll round.watched.others count := by
            rw [steppedIn, ran]
          have cycles := start.append (repainted_runCounted round.watched.others count reached)
          rw [List.nil_append, ← stepped] at cycles
          simp only [proceed]
          rw [run_bind]
          cases ran : (runCounted round.watched.others count).run.run reached with
          | mk outcome worked =>
              rw [ran] at cycles
              cases outcome with
              | error error => exact .broken cycles
              | ok _ => exact .worked cycles (presented_paint_measure now worked)

section

variable {round : Round δ} {ended : Except HostError Unit × Runner (Watched δ)}

theorem Ticked.current (ticked : Ticked round before ended) (current : before.Current)
    (drawn : ended.2.host.device.showing.failed = false) : ended.2.Current := by
  cases ticked with
  | quit _ same => exact current.repainted same
  | broken repainted => exact current.repainted repainted
  | worked repainted presented =>
      cases presented with
      | painted painted => exact (current.repainted repainted).painted painted
      | refused failed => cases failed.symm.trans drawn

theorem Ticked.drawn (ticked : Ticked round before ended)
    (drawn : ended.2.host.device.showing.failed = false) :
    before.host.device.showing.failed = false := by
  cases ticked with
  | quit _ repainted | broken repainted => exact repainted.showing ▸ drawn
  | worked repainted presented =>
      cases presented with
      | painted painted =>
          rw [painted.showing, repainted.showing] at drawn
          exact drawn
      | refused failed => cases failed.symm.trans drawn

theorem Ticked.drawn_of_draws (ticked : Ticked round before ended)
    (draws : ∀ (display : Display) (host : Host δ),
      ((Frontend.draw display).run.run host).1 = .ok ())
    (drawn : before.host.device.showing.failed = false) :
    ended.2.host.device.showing.failed = false := by
  cases ticked with
  | quit _ repainted | broken repainted => exact repainted.showing.symm ▸ drawn
  | worked repainted presented =>
      cases presented with
      | painted painted =>
          rw [painted.showing, repainted.showing]
          exact drawn
      | refused _ raised => cases (draws _ _).symm.trans raised

theorem Ticked.pending (ticked : Ticked round before ended) (done : ended.1 = .ok ())
    (pending : ended.2.pending.isSome) : before.pending.isSome := by
  cases ticked with
  | quit _ same => exact (same.kept (by simp)).1 ▸ pending
  | broken => cases done
  | worked _ presented =>
      cases presented with
      | painted painted =>
          rw [painted.pending] at pending
          cases pending
      | refused => cases done

theorem Ticked.pictures (ticked : Ticked round before ended) (current : before.Current)
    (polled : (Frontend.poll.run.run (before.prepare round.watched).host).1 = .ok true)
    (done : ended.1 = .ok ()) :
    ended.2.host.device.showing.pictures.getLast? = some ended.2.machine.display ∧
      ∃ picture : Option Display,
        ended.2.host.device.showing.pictures =
          before.host.device.showing.pictures ++ picture.toList ∧
        (picture.isSome ↔
          before.pending.isSome ∨ ∃ machine ∈ before.steppedIn round.watched, machine.Repaints) := by
  cases ticked with
  | quit quits => cases quits.symm.trans polled
  | broken => cases done
  | @worked between _ repainted presented =>
      cases presented with
      | refused => cases done
      | painted painted =>
          constructor
          · rcases (current.repainted repainted).painted painted with ⟨_, last⟩ | pending
            · exact last
            · cases painted.pending.symm.trans pending
          · refine ⟨between.pending, ?_, ?_⟩
            · rw [painted.showing, repainted.showing]
            · by_cases fresh : ∃ machine ∈ before.steppedIn round.watched, machine.Repaints
              · simp only [repainted.fresh fresh, fresh, Option.isSome_some, or_true]
              · rw [(repainted.kept (by simpa using fresh)).1]
                simp only [fresh, or_false]

end

theorem current_of_enter {runner : Runner δ} {clock : Action (Host δ) Float}
    (fresh : runner.pending = none) (entered : ((enter clock).run.run runner).1 = .ok ()) :
    (runner.watched.entered (Host.watch clock)).Current ∧
      (runner.watched.entered (Host.watch clock)).host.device.showing.failed = false ∧
      (runner.watched.entered (Host.watch clock)).pending = none := by
  have entered : ((enter (Host.watch clock)).run.run runner.watched).1 = .ok () :=
    (congrArg Prod.fst (mirrors_enter clock runner.watched)).symm.trans entered
  have start := (keeps_watch (δ := δ) Frontend.start) runner.watched
  obtain ⟨_, _, entered, ran⟩ := Action.ok_of_bind entered
  rw [Runner.entered, enter, ran]
  generalize ((onHost Frontend.start).run.run runner.watched).2 = started at *
  rw [Action.run_get] at entered ⊢
  obtain ⟨_, drew, _, ran⟩ := Action.ok_of_bind entered
  rw [ran]
  rw [run_draw] at drew ⊢
  cases drawn : (Frontend.draw started.machine.display).run.run started.host.unwatched with
  | mk outcome plain =>
      rw [drawn] at drew
      cases drew
      have showing := Showing.add_ok started.host.device.showing started.machine.display
      have rest := keeps_entry clock { started with
        host := plain.watched (started.host.device.showing.add started.machine.display (.ok ())) }
      have pending := (start.kept (by simp)).1.trans fresh
      have current : Current { started with
          host := plain.watched (started.host.device.showing.add started.machine.display (.ok ())) } :=
        Or.inl ⟨pending, (congrArg (·.pictures.getLast?) showing).trans List.getLast?_concat⟩
      refine ⟨current.repainted rest, ?_, (rest.kept (by simp)).1.trans pending⟩
      rw [rest.showing]
      exact (congrArg (·.failed) showing).trans (congrArg (·.failed) start.showing)

section

variable {start : Runner (Watched δ)} {rounds : List (Round δ)}

/-- A picture that is pending was left by a tick that failed. -/
theorem exists_failed_of_pending (fresh : start.pending = none)
    (pending : (start.after (rounds.map Round.watched)).pending.isSome) :
    ∃ earlier failed rest error, rounds = earlier ++ failed :: rest ∧
      let ended := (start.after (earlier.map Round.watched)).ticked failed.watched
      ended.1 = .error error ∧ ended.2.pending.isSome := by
  induction rounds using List.reverseRecOn with
  | nil =>
      rw [List.map_nil, after, List.foldl_nil, fresh] at pending
      cases pending
  | append_singleton rounds round ih =>
      rw [after_map_concat] at pending
      have ticked := (start.after (rounds.map Round.watched)).ticked_ticked round
      cases outcome : ((start.after (rounds.map Round.watched)).ticked round.watched).1 with
      | error error => exact ⟨rounds, round, [], error, rfl, outcome, pending⟩
      | ok _ =>
          obtain ⟨earlier, failed, rest, error, rfl, raised⟩ := ih (ticked.pending outcome pending)
          exact ⟨earlier, failed, rest ++ [round], error, by simp, raised⟩

theorem current_after (current : start.Current)
    (drawn : (start.after (rounds.map Round.watched)).host.device.showing.failed = false) :
    (start.after (rounds.map Round.watched)).Current := by
  induction rounds using List.reverseRecOn with
  | nil => exact current
  | append_singleton rounds round ih =>
      rw [after_map_concat] at drawn ⊢
      have ticked := (start.after (rounds.map Round.watched)).ticked_ticked round
      exact ticked.current (ih (ticked.drawn drawn)) drawn

theorem drawn_after
    (draws : ∀ (display : Display) (host : Host δ), ((Frontend.draw display).run.run host).1 = .ok ())
    (drawn : start.host.device.showing.failed = false) :
    (start.after (rounds.map Round.watched)).host.device.showing.failed = false := by
  induction rounds using List.reverseRecOn with
  | nil => exact drawn
  | append_singleton rounds round ih =>
      rw [after_map_concat]
      have ticked := (start.after (rounds.map Round.watched)).ticked_ticked round
      exact ticked.drawn_of_draws draws ih

end

/-- What has been shown when a run has been entered, some ticks have passed and one more has. -/
structure ShowsPictures (runner : Runner δ) (clock : Action (Host δ) Float)
    (rounds : List (Round δ)) (round : Round δ) : Prop where
  /-- However the tick ends, the display is on the screen or pending. -/
  current : ((runner.watched.entered (Host.watch clock)).after
    ((rounds ++ [round]).map Round.watched)).Current
  /-- After a tick that goes through it is on the screen.  The tick shows at most one picture, and
  one exactly when a cycle changed the display or a picture was pending. -/
  shown :
    let before := (runner.watched.entered (Host.watch clock)).after (rounds.map Round.watched)
    let ended := before.ticked round.watched
    (Frontend.poll.run.run (before.prepare round.watched).host).1 = .ok true → ended.1 = .ok () →
      ended.2.host.device.showing.pictures.getLast? = some ended.2.machine.display ∧
        ∃ picture : Option Display,
          ended.2.host.device.showing.pictures =
            before.host.device.showing.pictures ++ picture.toList ∧
          (picture.isSome ↔
            before.pending.isSome ∨ ∃ machine ∈ before.steppedIn round.watched, machine.Repaints)
  /-- A picture that was pending before the tick was left by an earlier tick that failed. -/
  left :
    let start := runner.watched.entered (Host.watch clock)
    (start.after (rounds.map Round.watched)).pending.isSome →
      ∃ earlier failed rest error, rounds = earlier ++ failed :: rest ∧
        let ended := (start.after (earlier.map Round.watched)).ticked failed.watched
        ended.1 = .error error ∧ ended.2.pending.isSome
  /-- All this is about the run on the plain device. -/
  plain : ((runner.watched.entered (Host.watch clock)).after
      ((rounds ++ [round]).map Round.watched)).unwatched =
    (runner.entered clock).after (rounds ++ [round])

theorem showsPictures_of_enter {runner : Runner δ} {clock : Action (Host δ) Float}
    (fresh : runner.pending = none) (entered : ((enter clock).run.run runner).1 = .ok ())
    (rounds : List (Round δ)) (round : Round δ)
    (drawn : ((runner.watched.entered (Host.watch clock)).after
      ((rounds ++ [round]).map Round.watched)).host.device.showing.failed = false) :
    runner.ShowsPictures clock rounds round := by
  obtain ⟨start, _, nothing⟩ := current_of_enter fresh entered
  have ticked := ((runner.watched.entered (Host.watch clock)).after
    (rounds.map Round.watched)).ticked_ticked round
  have last := drawn
  rw [after_map_concat] at last
  have before := current_after start (ticked.drawn last)
  exact
    { current := current_after start drawn
      shown := ticked.pictures before
      left := exists_failed_of_pending nothing
      plain := unwatched_entered_after runner clock (rounds ++ [round]) }

theorem showsPictures_of_clearing :
    let _ : Frontend Unit :=
      { start := pure ()
        poll := pure true
        draw := fun _ => pure ()
        stop := pure ()
        reportSpeed := fun _ => pure ()
        paused := fun _ => false }
    let runner : Runner Unit :=
      { machine :=
          { memory := Memory.withFont.writeBlock Memory.programStart [0x00, 0xE0], programSize := 2 }
        host := { device := () }
        pace := { speed := Pace.defaultSpeed, timerPeriod := 1.0 / 60.0 } }
    let round : Round Unit :=
      { before := fun host => { host with clock := host.clock.advance 20000 } }
    runner.pending = none ∧ ((enter Host.now).run.run runner).1 = .ok () ∧
      ((runner.watched.entered (Host.watch Host.now)).after
        (([round] ++ [round]).map Round.watched)).host.device.showing.failed = false ∧
      runner.ShowsPictures Host.now [round] round := by
  intro _ runner round
  have fresh : runner.pending = none := rfl
  have entered : ((enter Host.now).run.run runner).1 = .ok () := rfl
  have drawn : ((runner.watched.entered (Host.watch Host.now)).after
      (([round] ++ [round]).map Round.watched)).host.device.showing.failed = false :=
    drawn_after (fun _ _ => rfl) (current_of_enter fresh entered).2.1
  exact ⟨fresh, entered, drawn, showsPictures_of_enter fresh entered [round] round drawn⟩

end Chip8.Runner
