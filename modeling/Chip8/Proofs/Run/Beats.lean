import Chip8.Proofs.Run.Watched

/-!
# Beats

A run loop beats time for its machine: it ticks the timers and it runs cycles.  Here an observer
tallies what a tick reads and its beats, timer tick by timer tick and cycle by cycle.  Without the
tally it is the plain tick (`untallied_tallied`).
-/

namespace Chip8

open Chip8.Action (Mirrors parallel_iff_mirrors)

variable {δ α : Type}

/-- What a tick read and did. -/
structure Tally where
  /-- The clock, unless the tick ended the run or failed before it read it. -/
  time? : Option Float := none
  paused : Bool := false
  beats : List Beat := []

namespace Tally

def beaten (tally : Tally) (beats : List Beat) : Tally :=
  { tally with beats := tally.beats ++ beats }

theorem beaten_nil (tally : Tally) : tally.beaten [] = tally := by
  rw [beaten, List.append_nil]

theorem beaten_append (tally : Tally) (beats more : List Beat) :
    (tally.beaten beats).beaten more = tally.beaten (beats ++ more) := by
  simp only [beaten, List.append_assoc]

def note (tally : Tally) : Observation → Tally
  | .time now => { tally with time? := some now }
  | .paused paused => { tally with paused }
  | .beat beat => tally.beaten [beat]

end Tally

/-- A device with a tally of what the run loop does. -/
structure Tallied (δ : Type) where
  device : δ
  tally : Tally := {}

def Tallied.note : Observer (Tallied δ) := fun seen tallied =>
  { tallied with tally := tallied.tally.note seen }

namespace Host

def untallied (host : Host (Tallied δ)) : Host δ := host.mapDevice Tallied.device

/-- An action of the plain host, of which the tally says nothing. -/
def unnoticed (action : Action (Host δ) α) : Action (Host (Tallied δ)) α :=
  within Tallied.device (fun tallied device => { tallied with device }) action

theorem mirrors_unnoticed (action : Action (Host δ) α) : Mirrors untallied (unnoticed action) action :=
  mirrors_within (fun _ _ => rfl) action

end Host

instance [Frontend δ] : Frontend (Tallied δ) where
  start := Host.unnoticed Frontend.start
  poll := Host.unnoticed Frontend.poll
  draw display := Host.unnoticed (Frontend.draw display)
  stop := Host.unnoticed Frontend.stop
  reportSpeed rate := Host.unnoticed (Frontend.reportSpeed rate)
  paused tallied := Frontend.paused tallied.device

theorem Tallied.twins_note :
    note.Twins (fun (host : Host (Tallied δ)) (plain : Host δ) => host.untallied = plain) .blind := by
  rintro seen host _ rfl
  rfl

namespace Runner

def tally (runner : Runner (Tallied δ)) : Tally := runner.host.device.tally

def untallied (runner : Runner (Tallied δ)) : Runner δ :=
  { runner with host := runner.host.untallied }

def withTally (runner : Runner δ) : Runner (Tallied δ) :=
  { runner with host := runner.host.mapDevice fun device => { device } }

variable [Frontend δ]

def tallied (runner : Runner δ) (round : Round δ) : Runner (Tallied δ) :=
  ((tick round.others (Host.unnoticed round.clock) Tallied.note).run.run
    (runner.prepare round).withTally).2

theorem twins_untallied :
    Host.Twins fun (host : Host (Tallied δ)) (plain : Host δ) => host.untallied = plain :=
  Host.twins_mapDevice (Host.mirrors_unnoticed _) (fun _ => Host.mirrors_unnoticed _)
    (fun _ => Host.mirrors_unnoticed _) fun _ => rfl

/-- Without the tally, a tallied tick is the plain one. -/
theorem untallied_tallied (runner : Runner δ) (round : Round δ) :
    (runner.tallied round).untallied = (runner.ticked round).2 := by
  have mirrors : Mirrors untallied
      (tick round.others (Host.unnoticed round.clock) Tallied.note)
      (tick round.others round.clock) :=
    mirrors_of_parallel <| parallel_tick twins_untallied Tallied.twins_note round.others <|
      parallel_iff_mirrors.mpr (Host.mirrors_unnoticed round.clock)
  exact (congrArg Prod.snd (mirrors (runner.prepare round).withTally)).symm

end Runner

end Chip8
