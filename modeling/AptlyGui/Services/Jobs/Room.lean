import AptlyGui.Library.Solo
import AptlyGui.System
import AptlyGui.Operations

/-!
# What the disk guard lets through

The guard asks for the storage and compares whole MiB.  Sizes are rounded down,
so it can return although the download would take the disk below the margin.
-/

namespace AptlyGui

open Coroutine (Ends)

namespace JobRunner

/-- The guard answered with this reading, as the log shows it. -/
def GuardReturns (self : JobRunner) (remainingBytes : Int) (storage : Storage)
    (world after : World) : Prop :=
  Ends semantics (self.guardDisk remainingBytes) world (.ok ()) after ∧
    after.log = ⟨world.currentJob, .storage, .ok (.storage storage), true⟩ :: world.log

theorem guardReturns_iff {self : JobRunner} {remainingBytes : Int} {storage : Storage}
    {world after : World} :
    self.GuardReturns remainingBytes storage world after ↔
      (∃ reached, after = world.record .storage (.ok (.storage storage)) true reached) ∧
        (checkSpace storage self.margin (some (remainingBytes / mebibyte))).ok = true := by
  have guard : self.guardDisk remainingBytes = Client.storage.bind fun reading =>
      if (checkSpace reading self.margin (some (remainingBytes / mebibyte))).ok then .done ()
      else .raised (.aptlyError (s!"stopping the sync: {(checkSpace reading self.margin
        (some (remainingBytes / mebibyte))).shortfallMb} MiB short of the configured safety margin")) :=
    rfl
  unfold GuardReturns
  rw [guard, Coroutine.ends_bind_ok]
  constructor
  · rintro ⟨⟨reading, middle, asked, ended⟩, logged⟩
    obtain ⟨event, performed⟩ := Coroutine.ends_perform.mp asked
    obtain ⟨body, reached, -, parsed, rfl⟩ := Op.replied_of_ok performed
    cases body <;> cases parsed
    by_cases ok : (checkSpace reading self.margin (some (remainingBytes / mebibyte))).ok = true
    · rw [if_pos ok] at ended
      obtain ⟨-, rfl⟩ := Coroutine.ends_done.mp ended
      simp only [World.record, List.cons.injEq, Entry.mk.injEq, Except.ok.injEq,
        Reply.storage.injEq] at logged
      obtain ⟨⟨-, -, rfl, -⟩, -⟩ := logged
      exact ⟨⟨reached, rfl⟩, ok⟩
    · rw [if_neg ok] at ended
      obtain ⟨failed, -⟩ := Coroutine.ends_raised.mp ended
      cases failed
  · rintro ⟨⟨reached, rfl⟩, ok⟩
    refine ⟨⟨storage, _, Coroutine.ends_perform.mpr ⟨.reply (.storage storage) reached, rfl⟩, ?_⟩, rfl⟩
    rw [if_pos ok]
    exact Coroutine.ends_done.mpr ⟨rfl, rfl⟩

/-- Each time the guard returns, from whatever state, the rest of the download leaves the margin,
unless the size that it was asked about has lost something to rounding. -/
theorem guardReturns_kept_iff (self : JobRunner) (remainingBytes : Int) (storage : Storage) :
    (∀ world after, self.GuardReturns remainingBytes storage world after →
        self.margin.Kept storage remainingBytes) ↔
      ¬ self.margin.RoundedAway storage remainingBytes := by
  rw [← kept_of_ok_iff]
  constructor
  · intro kept ok
    let world := (System.blank .empty ⟨[], [], []⟩).world
    exact kept world _ (guardReturns_iff.mpr ⟨⟨world.aptly, rfl⟩, ok⟩)
  · intro kept world after returns
    exact kept (guardReturns_iff.mp returns).2

/-- One byte more than what is free beyond the margin. -/
theorem not_guardReturns_kept :
    ¬ ∀ (self : JobRunner) (remainingBytes : Int) (storage : Storage) (world after : World),
      self.GuardReturns remainingBytes storage world after →
        self.margin.Kept storage remainingBytes := by
  intro kept
  let world := (System.blank .empty ⟨[], [], []⟩).world
  have returns : Sample.runner.GuardReturns 1 ⟨204800, 30720⟩ world
      (world.record .storage (.ok (.storage ⟨204800, 30720⟩)) true world.aptly) :=
    guardReturns_iff.mpr ⟨⟨world.aptly, rfl⟩, by decide⟩
  exact absurd (kept _ _ _ _ _ returns) (by decide)

end JobRunner

end AptlyGui
