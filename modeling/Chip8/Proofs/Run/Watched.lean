import Chip8.Proofs.Run.Twins

/-!
# Watched devices

A device that is watched keeps a record of the pictures it was handed.  The record is only a record:
without it a run is the run on the plain device (`unwatched_after`).
-/

namespace Chip8

open Chip8.Action (Mirrors parallel_iff_mirrors)

structure Showing where
  pictures : List Display := []
  failed : Bool := false
  deriving DecidableEq

def Showing.add (showing : Showing) (display : Display) (outcome : Except HostError Unit) :
    Showing where
  pictures := showing.pictures ++ [display]
  failed := showing.failed || !outcome.isOk

theorem Showing.add_ok (showing : Showing) (display : Display) :
    showing.add display (.ok ()) = { showing with pictures := showing.pictures ++ [display] } := by
  rw [add]
  exact congrArg _ (Bool.or_false showing.failed)

structure Watched (δ : Type) where
  device : δ
  showing : Showing := {}

variable {δ α : Type}

namespace Host

def unwatched (host : Host (Watched δ)) : Host δ := host.mapDevice Watched.device

def watched (host : Host δ) (showing : Showing) : Host (Watched δ) :=
  host.mapDevice fun device => { device, showing }

def watch (action : Action (Host δ) α) : Action (Host (Watched δ)) α :=
  within Watched.device (fun watched device => { watched with device }) action

def watchDraw [Frontend δ] (display : Display) : Action (Host (Watched δ)) Unit := fun host =>
  let (outcome, plain) := (Frontend.draw display).run.run host.unwatched
  (outcome, plain.watched (host.device.showing.add display outcome))

end Host

instance [Frontend δ] : Frontend (Watched δ) where
  start := Host.watch Frontend.start
  poll := Host.watch Frontend.poll
  draw := Host.watchDraw
  stop := Host.watch Frontend.stop
  reportSpeed rate := Host.watch (Frontend.reportSpeed rate)
  paused watched := Frontend.paused watched.device

/-- A tick, with what comes before it and what input sources do to the keypad meanwhile. -/
structure Round (δ : Type) where
  before : Host δ → Host δ := id
  clock : Action (Host δ) Float := Host.now
  others : Nat → Interference := fun _ => {}

def Round.watched (round : Round δ) : Round (Watched δ) where
  before host := (round.before host.unwatched).watched host.device.showing
  clock := Host.watch round.clock
  others := round.others

namespace Runner

def unwatched (runner : Runner (Watched δ)) : Runner δ :=
  { runner with host := runner.host.unwatched }

def watched (runner : Runner δ) : Runner (Watched δ) :=
  { runner with host := runner.host.watched {} }

def prepare (runner : Runner δ) (round : Round δ) : Runner δ :=
  { runner with host := round.before runner.host }

variable [Frontend δ]

def ticked (runner : Runner δ) (round : Round δ) : Except HostError Unit × Runner δ :=
  (tick round.others round.clock).run.run (runner.prepare round)

def after (runner : Runner δ) (rounds : List (Round δ)) : Runner δ :=
  rounds.foldl (fun runner round => (runner.ticked round).2) runner

def entered (runner : Runner δ) (clock : Action (Host δ) Float) : Runner δ :=
  ((enter clock).run.run runner).2

theorem after_concat (runner : Runner δ) (rounds : List (Round δ)) (round : Round δ) :
    runner.after (rounds ++ [round]) = ((runner.after rounds).ticked round).2 := by
  rw [after, List.foldl_append]
  rfl

theorem after_map_concat {ε : Type} (lift : Round ε → Round δ) (runner : Runner δ)
    (rounds : List (Round ε)) (round : Round ε) :
    runner.after ((rounds ++ [round]).map lift) =
      ((runner.after (rounds.map lift)).ticked (lift round)).2 := by
  rw [List.map_append, List.map_singleton, after_concat]

/-- What one tick does to the image of a runner, any ticks do. -/
theorem image_after {ε : Type} [Frontend ε] {image : Runner ε → Runner δ} {lift : Round δ → Round ε}
    (ticked : ∀ runner round, image (runner.ticked (lift round)).2 = ((image runner).ticked round).2)
    (runner : Runner ε) (rounds : List (Round δ)) :
    image (runner.after (rounds.map lift)) = (image runner).after rounds := by
  induction rounds generalizing runner with
  | nil => rfl
  | cons round rest ih => exact (ih _).trans (congrArg (after · rest) (ticked runner round))

end Runner

namespace Host

theorem mirrors_watch (action : Action (Host δ) α) : Mirrors unwatched (watch action) action :=
  mirrors_within (fun _ _ => rfl) action

theorem mirrors_watchDraw [Frontend δ] (display : Display) :
    Mirrors unwatched (watchDraw (δ := δ) display) (Frontend.draw display) := fun _ => rfl

end Host

namespace Runner

variable [Frontend δ]

theorem twins_unwatched :
    Host.Twins fun (host : Host (Watched δ)) (plain : Host δ) => host.unwatched = plain :=
  Host.twins_mapDevice (Host.mirrors_watch _) Host.mirrors_watchDraw
    (fun _ => Host.mirrors_watch _) fun _ => rfl

theorem mirrors_tick (others : Nat → Interference) (clock : Action (Host δ) Float) :
    Mirrors unwatched (tick others (Host.watch clock)) (tick others clock) :=
  mirrors_of_parallel <| parallel_tick twins_unwatched (Observer.twins_blind _) others <|
    parallel_iff_mirrors.mpr (Host.mirrors_watch clock)

theorem mirrors_enter (clock : Action (Host δ) Float) :
    Mirrors unwatched (enter (Host.watch clock)) (enter clock) :=
  mirrors_of_parallel <|
    parallel_enter twins_unwatched (parallel_iff_mirrors.mpr (Host.mirrors_watch _))
      (parallel_iff_mirrors.mpr (Host.mirrors_watch clock))

/-- Without the record, watched ticks are the plain ones, -/
theorem unwatched_after (runner : Runner (Watched δ)) (rounds : List (Round δ)) :
    (runner.after (rounds.map Round.watched)).unwatched = runner.unwatched.after rounds := by
  refine image_after (fun reached round => ?_) runner rounds
  have mirrored := mirrors_tick round.others round.clock (reached.prepare round.watched)
  exact (congrArg Prod.snd mirrored).symm

/-- and so are runs. -/
theorem unwatched_entered_after (runner : Runner δ) (clock : Action (Host δ) Float)
    (rounds : List (Round δ)) :
    ((runner.watched.entered (Host.watch clock)).after (rounds.map Round.watched)).unwatched =
      (runner.entered clock).after rounds := by
  have entered : (runner.watched.entered (Host.watch clock)).unwatched = runner.entered clock :=
    (congrArg Prod.snd (mirrors_enter clock runner.watched)).symm
  rw [unwatched_after, entered]

end Runner

end Chip8
