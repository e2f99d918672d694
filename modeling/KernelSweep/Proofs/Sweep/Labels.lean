import KernelSweep.Proofs.Occupancy.Label
import KernelSweep.Proofs.Sweep.Blocks

set_option autoImplicit false

namespace KernelSweep

namespace Sweep

variable {s : Sweep} {job : Job} {st : SweepState}

/-- What a job recorded: the run it asks for first, then runs of its search, each result under a
label of its own. -/
structure TellsApart (job : Job) (b : Block) : Prop where
  kernel : ∀ t ∈ b.trials, t.result.kernel = job.kernel
  setting : ∀ t ∈ b.trials, t.result.setting = job.kernel.apply job.setting
  asked : b.primary.result.followUp = false
  searching : ∀ t ∈ b.followUps, t.result.followUp = true
  labels : (b.trials.map fun t => t.result.label).Nodup

theorem FollowUps.labels {steps : List Occupancy.Step} {last : SweepState} {trials : List Trial}
    (traced : FollowUps s job steps st trials last) :
    (trials.map fun t => t.result.label) = steps.map Occupancy.Step.label := by
  induction traced with
  | none st => rfl
  | step tried recorded _ ih => rw [List.map_cons, List.map_cons, recorded.label, ih]

/-- Every follow-up run of a block is one of its search, as far as that got. -/
theorem isFollowUp_of_mem_block (s : Sweep) (job : Job) (st : SweepState) :
    ∀ t ∈ (s.block job st).followUps, ∃ step, IsFollowUp job step t := by
  obtain ⟨taken, -, traced, -⟩ :=
    s.followUps_begun job (s.stepsFrom (s.found job st)) (s.measured job st)
  exact traced.isFollowUp

/-- A search behind a report begins with the first steps of its plan; without one nothing follows
the primary run. -/
theorem nodup_labels_block (s : Sweep) (job : Job) (st : SweepState) :
    ((s.block job st).trials.map fun t => t.result.label).Nodup := by
  rw [Block.trials, List.map_cons]
  rcases s.followUps_block job st with alone | ⟨-, r, taken, last, loaded, begun, traced⟩
  · rw [alone, List.map_nil]
    exact List.nodup_cons.mpr ⟨List.not_mem_nil, List.nodup_nil⟩
  · have first : (s.block job st).primary.result.label =
        Occupancy.measuredLabel r s.binder.profile :=
      (s.isPrimary_primaryTrial job st).measured r loaded
    rw [first, traced.labels]
    have begins := (begun.sublist.map Occupancy.Step.label).cons_cons
      (Occupancy.measuredLabel r s.binder.profile)
    exact (Occupancy.nodup_labels s.binder.profile_valid (s.steps_eq_plan r)).sublist begins

theorem tellsApart_block (s : Sweep) (job : Job) (st : SweepState) :
    TellsApart job (s.block job st) := by
  have primary := s.isPrimary_primaryTrial job st
  have followUps := s.isFollowUp_of_mem_block job st
  refine ⟨List.forall_mem_cons.mpr ⟨primary.kernel, ?_⟩,
    List.forall_mem_cons.mpr ⟨primary.setting, ?_⟩, primary.asked, ?_, s.nodup_labels_block job st⟩
  · intro t member
    obtain ⟨step, recorded⟩ := followUps t member
    exact recorded.kernel
  · intro t member
    obtain ⟨step, recorded⟩ := followUps t member
    exact recorded.setting
  · intro t member
    obtain ⟨step, recorded⟩ := followUps t member
    exact recorded.searching

/-- Different numbers make different labels. So a measurement and the steps of its plan have
different ones, none of them that of a missing report, under every accepted profile and whatever
the record holds; and no job of a run, cancelled or not, records two results under one label. -/
theorem labels_identify_runs :
    (∀ blocks resident threads blocks' resident' threads' : Int64,
      Occupancy.label blocks resident threads = Occupancy.label blocks' resident' threads' ↔
        blocks = blocks' ∧ resident = resident' ∧ threads = threads') ∧
    (∀ (r : Occupancy.Record) (p : Profile), p.validate = .ok () →
      ∃ steps, Occupancy.plan r p = .ok steps ∧
        (Occupancy.measuredLabel r p :: steps.map Occupancy.Step.label).Nodup ∧
        Occupancy.unmeasuredLabel ∉
          Occupancy.measuredLabel r p :: steps.map Occupancy.Step.label) ∧
    ∀ (s : Sweep) (ledger : Ledger) (st : SweepState), ∃ blocks : List Block,
      (s.run ledger st).ledger =
        ledger.recordAll ((blocks.flatMap Block.trials).map Trial.result) ∧
      List.Forall₂ TellsApart (s.jobs.take blocks.length) blocks ∧
      ((s.run ledger st).state.cancelled = false → blocks.length = s.jobs.length) := by
  refine ⟨fun _ _ _ _ _ _ => Occupancy.label_inj, ?_, ?_⟩
  · intro r p accepted
    have valid := p.validate_eq_ok_iff.mp accepted
    obtain ⟨steps, planned⟩ := Occupancy.plan_of_valid r p valid
    exact ⟨steps, planned, Occupancy.nodup_labels valid planned,
      Occupancy.unmeasuredLabel_not_mem valid planned⟩
  · intro s ledger st
    obtain ⟨blocks, held, apart, whole⟩ := s.trials_of_blocks (fun _ => True) s.jobs st trivial
      (fun _ _ _ _ => trivial) (fun job _ before _ => s.tellsApart_block job before)
    refine ⟨blocks, ?_, apart, whole⟩
    rw [run_ledger, held]

/-- A full unit of four blocks and the two steps below; and a run that measures such a unit once,
finds no report the second time, and is not cancelled. -/
theorem sample_labels_apart :
    Profile.pascal.validate = .ok () ∧
    Occupancy.plan ⟨0, 512, .ofInt 1⟩ .pascal = .ok [⟨3, 4, 512, 24577⟩, ⟨2, 4, 512, 32769⟩] ∧
    ["4/4@512", "3/4@512", "2/4@512"].Nodup ∧
    (sample.run {} { files := .standard }).state.cancelled = false ∧
    ∃ blocks : List Block,
      (sample.run {} { files := .standard }).ledger =
        ({} : Ledger).recordAll ((blocks.flatMap Block.trials).map Trial.result) ∧
      List.Forall₂ TellsApart (sample.jobs.take blocks.length) blocks ∧ blocks.length = 2 := by
  have full : Occupancy.plan ⟨0, 512, .ofInt 1⟩ .pascal =
      .ok [⟨3, 4, 512, 24577⟩, ⟨2, 4, 512, 32769⟩] := by rfl
  have live : (sample.run {} { files := .standard }).state.cancelled = false := by
    decide +kernel
  obtain ⟨-, planned, recorded⟩ := labels_identify_runs
  obtain ⟨steps, made, apart, -⟩ := planned ⟨0, 512, .ofInt 1⟩ .pascal rfl
  obtain ⟨blocks, held, jobs, whole⟩ := recorded sample {} { files := .standard }
  cases full.symm.trans made
  exact ⟨rfl, full, apart, live, blocks, held, jobs, whole live⟩

end Sweep

end KernelSweep
