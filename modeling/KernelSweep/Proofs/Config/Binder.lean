import KernelSweep.Config.Validate
import KernelSweep.Proofs.Binder.Isolation
import KernelSweep.Proofs.Number.IntegerText
import KernelSweep.Proofs.Registry

set_option autoImplicit false

namespace KernelSweep

open Text (Bytes)

namespace Environment

/-- A variable that was not bound stands at one place among the entries. -/
theorem entries_set {e : Environment} {name : String} (absent : e.lookup name = none)
    (value : Bytes) :
    ∃ before after, e.entries = before ++ after ∧
      (e.set name value).entries = before ++ assignment name value :: after := by
  obtain ⟨before, after, keys, extended⟩ := e.keys_set value absent
  have unbound : name ∉ e.keys := by
    rw [mem_keys_iff, absent]
    simp
  -- The other variables have the values they had.
  have kept {names : List String} (known : ∀ other ∈ names, other ∈ e.keys) :
      (names.map fun other => assignment other (((e.set name value).lookup other).getD [])) =
        names.map fun other => assignment other ((e.lookup other).getD []) := by
    apply List.map_congr_left
    intro other member
    have different : other ≠ name := fun same => unbound (same ▸ known other member)
    rw [lookup_set, if_neg different]
  have inherited : (e.set name value).inherited = e.inherited := rfl
  refine ⟨unmanaged e.inherited ++
      before.map (fun other => assignment other ((e.lookup other).getD [])),
    after.map fun other => assignment other ((e.lookup other).getD []), ?_, ?_⟩
  · rw [entries_eq, keys, List.map_append, List.append_assoc]
  · rw [entries_eq, extended, inherited, List.map_append, List.map_cons, lookup_set, if_pos rfl,
      kept (by rw [keys]; exact fun _ => List.mem_append_left _),
      kept (by rw [keys]; exact fun _ => List.mem_append_right _), List.append_assoc]
    rfl

/-- The other environment has one entry more, under a name this one has no entry under. -/
structure Lacks (e other : Environment) (name : String) (value : Bytes) : Prop where
  entries : ∃ before after, other.entries = before ++ assignment name value :: after ∧
    e.entries = before ++ after
  single : entriesUnder name other.entries = [assignment name value]
  never : entriesUnder name e.entries = []

theorem lacks_set {e : Environment} (within : Binder.Within e) {name : String}
    (managed : name ∈ Variable.managed) (absent : e.lookup name = none) (value : Bytes) :
    e.Lacks (e.set name value) name value where
  entries := by
    obtain ⟨before, after, plain, extended⟩ := entries_set absent value
    exact ⟨before, after, extended, plain⟩
  single := by
    rw [entriesUnder_entries _ (within.set managed value) managed, lookup_set, if_pos rfl]
    rfl
  never := by
    rw [e.entriesUnder_entries within managed, absent]
    rfl

end Environment

namespace Binder

/-- The same binder with another upper limit for the factor. -/
def limited (b : Binder) (maxFactor : String) : Binder :=
  { b with spec := { b.spec with maxFactor } }

theorem lookup_maxFactor {b : Binder} (unlimited : b.spec.maxFactor = "") {r : BindRequest}
    {env : Environment} (bound : b.bind r = .ok env) : env.lookup Variable.maxFactor = none := by
  simp only [bind, Success.bind_eq_ok, Success.mapError_eq_ok, Success.pure_eq_ok] at bound
  obtain ⟨compiler, -, cacheLine, -, after, entered, rfl⟩ := bound
  rw [withMaxFactor, if_pos unlimited, lookup_withThreadLevel (by decide),
    (enters_of_enterPhase entered).lookup _ (by decide) (by decide)]
  rfl

/-- The limit decides one variable, and nothing about whether a request can be bound. -/
theorem bind_limited {b : Binder} (unlimited : b.spec.maxFactor = "") {maxFactor : String}
    (limits : maxFactor ≠ "") (r : BindRequest) :
    (b.limited maxFactor).bind r =
      (b.bind r).map fun env => env.set Variable.maxFactor (Text.encode maxFactor) := by
  have data : (b.limited maxFactor).data r = b.data r := rfl
  have common : (b.limited maxFactor).common r = b.common r := rfl
  have phase : (b.limited maxFactor).enterPhase r = b.enterPhase r := rfl
  unfold bind
  rw [data, common, phase]
  simp only [limited]
  cases b.compiler.render (b.data r) with
  | error e => rfl
  | ok compiler =>
    cases b.cacheLine.render (b.data r) with
    | error e => rfl
    | ok cacheLine =>
      simp only [Except.mapError, Bind.bind, Except.bind]
      cases b.enterPhase r (b.common r compiler cacheLine) with
      | error e => rfl
      | ok env =>
        simp only [withMaxFactor, if_pos unlimited, if_neg limits]
        rfl

end Binder

theorem BinderSpec.build_limited {s : BinderSpec} (maxFactor : String) :
    ({ s with maxFactor } : BinderSpec).build = s.build.map (·.limited maxFactor) := by
  cases built : s.build with
  | ok b =>
    obtain ⟨rfl, parsed⟩ := build_eq_ok_iff.mp built
    exact build_eq_ok_iff.mpr ⟨rfl, parsed⟩
  | error e =>
    cases low : s.profile.fault? with
    | some fault =>
      rw [build_of_fault low] at built
      cases built
      exact build_of_fault low
    | none =>
      have valid := s.profile.fault?_eq_none_iff.mp low
      have same := failure?_build (s := { s with maxFactor }) valid
      rw [← failure?_build (s := s) valid, built] at same
      exact Success.failure?_eq_some_iff.mp same

namespace Config

open Success

/-- The binder of a configuration for one mode, below some entries. -/
def binder (c : Config) (applyModel : Bool) (inherited : List Bytes) : Except Problem Binder := do
  let spec ← (c.binderSpec applyModel inherited).mapError .unknownProfile
  spec.build.mapError .binder

/-- What a request is bound to, given a binder. -/
def bound (c : Config) (applyModel : Bool) (inherited : List Bytes) (r : BindRequest) :
    Except Problem (Except BindError Environment) :=
  (c.binder applyModel inherited).map (·.bind r)

theorem binder_of_agree {c other : Config} (agree : c.LimitsAgree) (reordered : c.Reorders other)
    (applyModel : Bool) (inherited : List Bytes) :
    other.binder applyModel inherited = c.binder applyModel inherited := by
  rw [binder, binderSpec_of_reorders agree reordered]
  rfl

theorem decimal_ne_empty (w : Int64) : Number.decimal w ≠ "" := by
  intro empty
  have digits := congrArg String.toList empty
  rw [Number.toList_decimal] at digits
  split at digits
  · cases digits
  · exact Nat.toDigits_ne_nil digits

theorem binderSpec_applyModel (c : Config) (inherited : List Bytes) :
    c.binderSpec true inherited =
      (c.binderSpec false inherited).map fun spec =>
        { spec with maxFactor := Number.decimal c.maxCoarseningFactor } := by
  simp only [binderSpec]
  cases c.profile <;> rfl

/-- The two modes build the same binder up to the limit for the factor, or fail alike. -/
theorem binder_applyModel (c : Config) (inherited : List Bytes) :
    c.binder true inherited =
      (c.binder false inherited).map (·.limited (Number.decimal c.maxCoarseningFactor)) := by
  rw [binder, binder, binderSpec_applyModel]
  cases c.binderSpec false inherited with
  | error e => rfl
  | ok spec =>
    show ({ spec with maxFactor := _ } : BinderSpec).build.mapError Problem.binder = _
    rw [BinderSpec.build_limited]
    cases built : spec.build <;> simp [bind, Except.bind, Except.mapError, Except.map, built]

/-- Without the model no limit is set. -/
theorem maxFactor_of_binder {c : Config} {inherited : List Bytes} {b : Binder}
    (built : c.binder false inherited = .ok b) : b.spec.maxFactor = "" := by
  obtain ⟨spec, made, done⟩ := bind_eq_ok.mp built
  obtain ⟨p, -, same⟩ := bind_eq_ok.mp (mapError_eq_ok.mp made)
  obtain rfl := pure_eq_ok.mp same
  rw [(BinderSpec.build_eq_ok_iff.mp (mapError_eq_ok.mp done)).1]
  rfl

/-- The two modes fail alike, to build a binder or to bind a request, or what is bound differs in
one entry: the limit for the factor, which is among the entries only in the mode in which the model
chooses it, whatever the parent holds under its name. -/
theorem modes_differ_in_one_entry {c plain model : Config} (distinct : c.NamesDistinct)
    (listed : c.Reorders plain) (listed' : c.Reorders model) (inherited : List Bytes) :
    (∃ e, plain.binder false inherited = .error e ∧ model.binder true inherited = .error e) ∨
      ∃ b m, plain.binder false inherited = .ok b ∧ model.binder true inherited = .ok m ∧
        ∀ r, (∃ e, b.bind r = .error e ∧ m.bind r = .error e) ∨
          ∃ env env', b.bind r = .ok env ∧ m.bind r = .ok env' ∧
            env.Lacks env' Variable.maxFactor
              (Text.encode (Number.decimal c.maxCoarseningFactor)) := by
  have agree := distinct.limitsAgree
  rw [binder_of_agree agree listed, binder_of_agree agree listed', binder_applyModel]
  cases built : c.binder false inherited with
  | error e => exact .inl ⟨e, rfl, rfl⟩
  | ok b =>
    refine .inr ⟨b, _, rfl, rfl, fun r => ?_⟩
    have unlimited := maxFactor_of_binder built
    rw [Binder.bind_limited unlimited (decimal_ne_empty _)]
    cases bound : b.bind r with
    | error e => exact .inl ⟨e, rfl, rfl⟩
    | ok env =>
      have absent := Binder.lookup_maxFactor unlimited bound
      have within := (Binder.binds_of_bind bound).managed
      exact .inr ⟨env, _, rfl, rfl, Environment.lacks_set within (by decide) absent _⟩

/-- Two profiles of its own, and short templates. -/
def brief : Config :=
  { standard with
    arch := "w"
    architectures := [("w", .maxwell), ("t", .kepler)]
    templates := ⟨"-tc \x7b\x7b.Factor\x7d\x7d", "-clr", "-ored"⟩
    maxCoarseningFactor := 16 }

/-- Below a parent that sets the limit itself, twice. -/
def limitedParent : List Bytes :=
  ["A=b", "MAX_COARSENING_FACTOR=7", "MAX_COARSENING_FACTOR"].map Text.encode

theorem brief_modes_differ :
    brief.NamesDistinct ∧ ∃ b m env env',
      brief.binder false limitedParent = .ok b ∧
      { brief with architectures := [("t", .kepler), ("w", .maxwell)] }.binder true
        limitedParent = .ok m ∧
      b.bind crowdedRequest = .ok env ∧ m.bind crowdedRequest = .ok env' ∧
      env.Lacks env' "MAX_COARSENING_FACTOR" (Text.encode "16") := by
  have distinct : brief.NamesDistinct := by decide +kernel
  have reordered : brief.Reorders
      { brief with architectures := [("t", .kepler), ("w", .maxwell)] } :=
    ⟨List.Perm.swap .., rfl⟩
  have shown : ((brief.binder false limitedParent).toOption.bind fun b =>
        (b.bind crowdedRequest).toOption.map Environment.inherited).isSome = true := by
    decide +kernel
  obtain ⟨_, found⟩ := Option.isSome_iff_exists.mp shown
  obtain ⟨b, built, bound⟩ := Option.bind_eq_some_iff.mp found
  obtain ⟨env, bound, -⟩ := Option.map_eq_some_iff.mp bound
  rw [toOption_eq_some] at built bound
  rcases modes_differ_in_one_entry distinct (.refl brief) reordered limitedParent with
    ⟨e, failed, -⟩ | ⟨b', m, built', built'', each⟩
  · rw [built] at failed
    cases failed
  · obtain rfl := Except.ok.inj (built.symm.trans built')
    rcases each crowdedRequest with ⟨e, failed, -⟩ | ⟨env₁, env', bound', bound'', lacks⟩
    · rw [bound] at failed
      cases failed
    · obtain rfl := Except.ok.inj (bound.symm.trans bound')
      exact ⟨distinct, b, m, env, env', built, built'', bound, bound'', lacks⟩

end Config

end KernelSweep
