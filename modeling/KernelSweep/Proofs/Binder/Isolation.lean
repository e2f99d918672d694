import KernelSweep.Proofs.Binder.Build
import KernelSweep.Proofs.Environment
import Mathlib.Tactic.SplitIfs

set_option autoImplicit false

namespace KernelSweep

open Text (Bytes)

/-- The same variables below another parent. -/
def Environment.inheriting (e : Environment) (entries : List Bytes) : Environment :=
  { e with inherited := entries }

namespace Binder

/-- The same binder below another parent. -/
def inheriting (b : Binder) (entries : List Bytes) : Binder :=
  { b with spec := { b.spec with inherited := entries } }

/-- What one binder answers to requests that come one after the other. -/
def session (b : Binder) (requests : List BindRequest) : List (Except BindError Environment) :=
  requests.map b.bind

theorem enterPhase_inheriting (b : Binder) (entries : List Bytes) (r : BindRequest)
    (env : Environment) :
    (b.inheriting entries).enterPhase r (env.inheriting entries) =
      (b.enterPhase r env).map (·.inheriting entries) := by
  have data : (b.inheriting entries).data r = b.data r := rfl
  simp only [enterPhase, data]
  cases r.phase with
  | plain => rfl
  | measure => simp only; split <;> rfl
  | reduce =>
    simp only [inheriting]
    cases b.occupancy.render (b.data r) <;> rfl
  | other code => rfl

theorem withMaxFactor_inheriting (b : Binder) (entries : List Bytes) (env : Environment) :
    (b.inheriting entries).withMaxFactor (env.inheriting entries) =
      (b.withMaxFactor env).inheriting entries := by
  show (if b.spec.maxFactor = "" then env.inheriting entries else _) = _
  unfold withMaxFactor
  split_ifs <;> rfl

theorem withThreadLevel_inheriting (b : Binder) (entries : List Bytes) (env : Environment) :
    (b.inheriting entries).withThreadLevel (env.inheriting entries) =
      (b.withThreadLevel env).inheriting entries := by
  show (if b.spec.threadLevel then _ else env.inheriting entries) = _
  unfold withThreadLevel
  split_ifs <;> rfl

/-- What the parent holds has no part in whether a request can be bound and to which values. -/
theorem bind_inheriting (b : Binder) (entries : List Bytes) (r : BindRequest) :
    (b.inheriting entries).bind r = (b.bind r).map (·.inheriting entries) := by
  have data : (b.inheriting entries).data r = b.data r := rfl
  have common (compiler cacheLine : Bytes) : (b.inheriting entries).common r compiler cacheLine =
      (b.common r compiler cacheLine).inheriting entries := rfl
  unfold bind
  simp only [data, common, enterPhase_inheriting]
  simp only [inheriting]
  cases b.compiler.render (b.data r) with
  | error e => rfl
  | ok compiler =>
    cases b.cacheLine.render (b.data r) with
    | error e => rfl
    | ok cacheLine =>
      simp only [Except.mapError, Bind.bind, Except.bind]
      cases b.enterPhase r (b.common r compiler cacheLine) with
      | error e => rfl
      | ok env =>
        have level := b.withThreadLevel_inheriting entries env
        have factor := b.withMaxFactor_inheriting entries (b.withThreadLevel env)
        exact congrArg Except.ok ((congrArg _ level).trans factor)

theorem entries_inheriting (b : Binder) {entries : List Bytes}
    (same : Environment.unmanaged entries = Environment.unmanaged b.spec.inherited)
    (r : BindRequest) :
    ((b.inheriting entries).bind r).map Environment.entries =
      (b.bind r).map Environment.entries := by
  rw [bind_inheriting]
  cases bound : b.bind r with
  | error e => rfl
  | ok env =>
    have below : env.inherited = b.spec.inherited := (binds_of_bind bound).inherited
    simp only [Except.map, Except.ok.injEq]
    rw [Environment.entries_eq, env.entries_eq, below, ← same]
    rfl

end Binder

theorem BinderSpec.build_inheriting {s : BinderSpec} {b : Binder} (built : s.build = .ok b)
    (entries : List Bytes) :
    ({ s with inherited := entries } : BinderSpec).build = .ok (b.inheriting entries) := by
  obtain ⟨rfl, parsed⟩ := build_eq_ok_iff.mp built
  exact build_eq_ok_iff.mpr ⟨rfl, parsed⟩

/-- No entry of the parent under a name of the toolchain reaches a run, no other entry is lost, and
each bound variable stands there once. So two parents that differ only in the toolchain's names are
the same to every request, and a request is bound alike whatever was bound before it. -/
theorem BinderSpec.build_isolates (s : BinderSpec) (b : Binder) (built : s.build = .ok b) :
    (∀ r env, b.bind r = .ok env → env.IsolatedFrom s.inherited) ∧
      (∀ entries, Environment.unmanaged entries = Environment.unmanaged s.inherited →
        ∃ b', ({ s with inherited := entries } : BinderSpec).build = .ok b' ∧
          ∀ r, (b'.bind r).map Environment.entries = (b.bind r).map Environment.entries) ∧
      ∀ (r : BindRequest) (earlier later : List BindRequest),
        (b.session (earlier ++ r :: later))[earlier.length]? = some (b.bind r) := by
  obtain ⟨rfl, -⟩ := build_eq_ok_iff.mp built
  refine ⟨?_, ?_, ?_⟩
  · intro r env bound
    rw [← (Binder.binds_of_bind bound).inherited]
    exact env.isolatedFrom_inherited (Binder.binds_of_bind bound).managed
  · intro entries same
    exact ⟨b.inheriting entries, build_inheriting built entries, b.entries_inheriting same⟩
  · intro r earlier later
    simp [Binder.session]

/-- Below a parent that repeats itself, has entries without a sign and uses names of the
toolchain. -/
def crowded : BinderSpec where
  templates := ⟨"-tc", "-clr", "-ored"⟩
  inherited := ["HOME=/a", "OCCUPANCY_REDUCTION=old", "A=b=c", "LD_PRELOAD", "HOME=/a", "PLAIN",
    "TC_KERNEL_NAME=x=y"].map Text.encode

def crowdedRequest : BindRequest where
  kernel := ⟨"mm/mm", "mm", some "1"⟩
  setting := ⟨"0", "2", "32"⟩
  phase := .measure
  reportPath := "/tmp/mm.txt"

def crowdedKeys : List String :=
  ["ARCH_ACTIVE_THREADS_PER_CU", "ARCH_COMPUTE_UNITS", "ARCH_GROUPS_PER_CU", "ARCH_REGS_PER_CU",
    "ARCH_SMEM_PER_CU", "CLR_OPTIONS", "CUDA_CACHE_DISABLE", "CUDA_VISIBLE_DEVICES",
    "LD_PRELOAD", "OCCUPANCY_REDUCTION_SETUP", "OCL_COMPILER_OPTIONS", "OCL_HEADER",
    "TC_KERNEL_NAME"]

def crowdedVars : List (String × Bytes) :=
  [("OCL_HEADER", ""), ("TC_KERNEL_NAME", "mm"), ("LD_PRELOAD", ""),
    ("OCL_COMPILER_OPTIONS", "-tc"), ("CLR_OPTIONS", "-clr"), ("ARCH_COMPUTE_UNITS", "20"),
    ("ARCH_ACTIVE_THREADS_PER_CU", "2048"), ("ARCH_GROUPS_PER_CU", "32"),
    ("ARCH_REGS_PER_CU", "65536"), ("ARCH_SMEM_PER_CU", "98304"), ("CUDA_VISIBLE_DEVICES", "0"),
    ("CUDA_CACHE_DISABLE", "1"), ("OCCUPANCY_REDUCTION_SETUP", "/tmp/mm.txt")].map
      fun (name, value) => (name, Text.encode value)

def crowdedEntries : List Bytes :=
  ["HOME=/a", "A=b=c", "HOME=/a", "PLAIN", "ARCH_ACTIVE_THREADS_PER_CU=2048",
    "ARCH_COMPUTE_UNITS=20", "ARCH_GROUPS_PER_CU=32", "ARCH_REGS_PER_CU=65536",
    "ARCH_SMEM_PER_CU=98304", "CLR_OPTIONS=-clr", "CUDA_CACHE_DISABLE=1",
    "CUDA_VISIBLE_DEVICES=0", "LD_PRELOAD=", "OCCUPANCY_REDUCTION_SETUP=/tmp/mm.txt",
    "OCL_COMPILER_OPTIONS=-tc", "OCL_HEADER=", "TC_KERNEL_NAME=mm"].map Text.encode

theorem crowded_isolates :
    ∃ b env, crowded.build = .ok b ∧ b.bind crowdedRequest = .ok env ∧
      env.entries = crowdedEntries ∧ env.IsolatedFrom crowded.inherited ∧
      ∃ b', ({ crowded with inherited :=
          ["HOME=/a", "A=b=c", "HOME=/a", "PLAIN"].map Text.encode } : BinderSpec).build =
          .ok b' ∧
        ∀ r, (b'.bind r).map Environment.entries = (b.bind r).map Environment.entries := by
  have shown : (crowded.build.toOption.bind fun b =>
      (b.bind crowdedRequest).toOption.map Environment.vars) = some crowdedVars := by
    decide +kernel
  obtain ⟨b, built, bound⟩ := Option.bind_eq_some_iff.mp shown
  obtain ⟨env, bound, vars⟩ := Option.map_eq_some_iff.mp bound
  rw [Success.toOption_eq_some] at built bound
  obtain ⟨isolated, below, -⟩ := BinderSpec.build_isolates crowded b built
  have keys : env.keys = crowdedKeys :=
    env.keys_eq_of_perm (by decide +kernel) (by rw [vars]; decide +kernel)
  have entries : env.entries = crowdedEntries := by
    rw [(isolated crowdedRequest env bound).entries, keys]
    simp only [Environment.lookup, vars]
    decide +kernel
  exact ⟨b, env, built, bound, entries, isolated crowdedRequest env bound,
    below _ (by decide +kernel)⟩

end KernelSweep
