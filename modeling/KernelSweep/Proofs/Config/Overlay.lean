import KernelSweep.Config.Load
import KernelSweep.Proofs.Yaml.Completeness
import KernelSweep.Proofs.Yaml.Defect
import KernelSweep.Proofs.Yaml.Reorder
import Mathlib

set_option autoImplicit false

namespace KernelSweep.Config

open KernelSweep.Yaml

/-- The file can be read, and this is the first document in it. -/
def Holds (yaml : Yaml.Library) (files : FileSystem) (path : String)
    (document : Option Yaml.Document) : Prop :=
  ∃ content, files.read path = .ok content ∧ yaml.document content = .ok document

section Load

variable {yaml : Yaml.Library} (strict : yaml.Strict) {files : FileSystem} {path : String}
  {d : Yaml.Document}

theorem kind_isDistinct : kind.isDistinct = true := by
  decide

/-- The default adds no profile to the built-in ones. -/
theorem standard_isBlank : kind.IsBlank (value standard) := by
  simp only [kind, fields, Fields.ofList, Kind.IsBlank, Fields.AreBlank, textsKind, pathsKind,
    templatesKind, and_true, true_and]
  rfl

include strict

theorem load_of_empty (holds : Holds yaml files path none) :
    load yaml files path = .ok (value standard) := by
  obtain ⟨content, read, empty⟩ := holds
  simp only [load, read, strict.empty kind _ empty]

theorem decodes_of_load (holds : Holds yaml files path (some d)) {v : kind.Value}
    (accepted : load yaml files path = .ok v) :
    ∃ gave, kind.Decodes yaml d.anchored d.root (value standard) v gave := by
  obtain ⟨content, read, given⟩ := holds
  simp only [load, read] at accepted
  split at accepted
  · rename_i decoded
    cases accepted
    exact strict.sound given decoded
  · rename_i decoded
    cases strict.empty_only (congrArg Prod.snd decoded) ▸ given
  · cases accepted

theorem load_of_decodes (holds : Holds yaml files path (some d)) (plain : d.root.isPlain)
    {v : kind.Value} {gave : Bool}
    (decodes : kind.Decodes yaml d.anchored d.root (value standard) v gave) :
    load yaml files path = .ok v := by
  obtain ⟨content, read, given⟩ := holds
  simp only [load, read, strict.complete given kind_isDistinct plain decodes]

theorem load_eq_ok_iff (holds : Holds yaml files path (some d)) (plain : d.root.isPlain)
    (v : kind.Value) :
    load yaml files path = .ok v ↔ ∃ gave, kind.Reads yaml d.root (value standard) v gave := by
  constructor
  · intro accepted
    obtain ⟨gave, decodes⟩ := decodes_of_load strict holds accepted
    exact ⟨gave, (kind.decodes_iff_reads kind_isDistinct plain standard_isBlank).mp decodes⟩
  · rintro ⟨gave, reads⟩
    exact load_of_decodes strict holds plain
      ((kind.decodes_iff_reads kind_isDistinct plain standard_isBlank).mpr reads)

theorem load_of_defect (holds : Holds yaml files path (some d))
    (defect : Defect yaml d.anchored kind d.root) :
    ∃ e, load yaml files path = .error (.decode path e) := by
  cases loaded : load yaml files path with
  | ok v =>
    obtain ⟨gave, decodes⟩ := decodes_of_load strict holds loaded
    exact absurd defect (kind.decodes_guards decodes)
  | error e =>
    obtain ⟨content, read, -⟩ := holds
    simp only [load, read] at loaded ⊢
    split at loaded
    · cases loaded
    · cases loaded
    · cases loaded
      exact ⟨_, rfl⟩

end Load

/-- Without a document the default is loaded, and with a fault in it nothing is. A plain mapping
that is accepted is laid over the default: a field that it does not name keeps its value, the
others are read by their kinds. Its keys can stand in any order. -/
theorem load_overlays (yaml : Yaml.Library) (strict : yaml.Strict) (files : FileSystem)
    (path : String) :
    (Holds yaml files path none → load yaml files path = .ok (value standard)) ∧
      (∀ d, Holds yaml files path (some d) → Defect yaml d.anchored kind d.root →
        ∃ e, load yaml files path = .error (.decode path e)) ∧
      ∀ line tag entries anchored v,
        Holds yaml files path (some ⟨.mapping line tag entries, anchored⟩) →
        (Yaml.Node.mapping line tag entries).isPlain → load yaml files path = .ok v →
          Overlays yaml fields entries (value standard) v ∧
            ∀ files' path' d', Holds yaml files' path' (some d') → d'.root.isPlain →
              (Yaml.Node.mapping line tag entries).Reorders yaml d'.root →
                ∃ v', load yaml files' path' = .ok v' ∧ kind.Alike v v' := by
  refine ⟨load_of_empty strict, fun d => load_of_defect strict, ?_⟩
  intro line tag entries anchored v holds plain accepted
  obtain ⟨gave, reads⟩ := (load_eq_ok_iff strict holds plain v).mp accepted
  refine ⟨?_, fun files' path' d' holds' plain' reorders => ?_⟩
  · cases reads with
    | null null => cases null
    | mapping _ keys overlaid => exact ⟨keys, fields.overlaid_iff.mp overlaid⟩
  · obtain ⟨v', reads', same⟩ := kind.respects reorders reads
    exact ⟨v', (load_eq_ok_iff strict holds' plain' v').mpr ⟨gave, reads'⟩, same⟩

section Instances

open Yaml (plainLibrary plainLibrary_strict)

/-- A file system with one configuration in it. -/
def holding (text : String) : FileSystem where
  nodes := [(["sweep.yaml"], .file (Text.encode text) 0o644)]
  current := []

theorem read_holding (text : String) :
    (holding text).read "sweep.yaml" = .ok (Text.encode text) := by
  rfl

theorem holds_holding {text : String} {document : Option Yaml.Document}
    (parsed : plainLibrary.document (Text.encode text) = .ok document) :
    Holds plainLibrary (holding text) "sweep.yaml" document :=
  ⟨_, read_holding text, parsed⟩

theorem names_text (line : Nat) (name : String) (quoted : Bool) :
    Names plainLibrary (.scalar line "!!str" name quoted) (Text.encode name) :=
  .value rfl rfl rfl

def namedArch (line : Nat) : Yaml.Node × Yaml.Node :=
  (.scalar line "!!str" "arch" false, .scalar line "!!str" "x" false)

def emptyStrides (line : Nat) : Yaml.Node × Yaml.Node :=
  (.scalar line "!!str" "strides" false, .scalar line "!!null" "" false)

theorem parse_arch_strides : plainLibrary.document (Text.encode "arch: x\nstrides:\n") =
    .ok (some ⟨.mapping 1 "!!map" [namedArch 1, emptyStrides 2], []⟩) := by
  rw [namedArch, emptyStrides]
  cbv

theorem parse_strides_arch : plainLibrary.document (Text.encode "strides:\narch: x\n") =
    .ok (some ⟨.mapping 1 "!!map" [emptyStrides 1, namedArch 2], []⟩) := by
  rw [namedArch, emptyStrides]
  cbv

theorem parse_unknown : plainLibrary.document (Text.encode "q:") =
    .ok (some ⟨.mapping 1 "!!map"
      [(.scalar 1 "!!str" "q" false, .scalar 1 "!!null" "" false)], []⟩) := by
  cbv

theorem parse_nothing : plainLibrary.document (Text.encode "") = .ok none := by
  cbv

theorem load_holding {text : String} {v : kind.Value}
    (given : plainLibrary.decode kind (Text.encode text) (value standard) = (v, .ok ())) :
    load plainLibrary (holding text) "sweep.yaml" = .ok v := by
  simp only [load, read_holding, given]

/-- No document, a document with a key of no field, and two keys in both orders. -/
theorem load_overlays_arch_strides :
    load plainLibrary (holding "") "sweep.yaml" = .ok (value standard) ∧
      (∃ e, load plainLibrary (holding "q:") "sweep.yaml" = .error (.decode "sweep.yaml" e)) ∧
      Overlays plainLibrary fields [namedArch 1, emptyStrides 2] (value standard)
        (value { standard with arch := "x", strides := [] }) ∧
      ∃ v', load plainLibrary (holding "strides:\narch: x\n") "sweep.yaml" = .ok v' ∧
        kind.Alike (value { standard with arch := "x", strides := [] }) v' := by
  have unknown : Defect plainLibrary [] kind (.mapping 1 "!!map"
      [(.scalar 1 "!!str" "q" false, .scalar 1 "!!null" "" false)]) := by
    refine .unknown rfl (.own rfl) List.mem_cons_self rfl (names_text 1 "q" false) ?_ (by cbv)
    rintro es (same | ⟨same, mem, merge, -⟩) e mem' merge'
    · cases same
      cases List.mem_singleton.mp mem'
      cases merge'
    · cases same
      cases List.mem_singleton.mp mem
      cases merge
  have accepted : load plainLibrary (holding "arch: x\nstrides:\n") "sweep.yaml" =
      .ok (value { standard with arch := "x", strides := [] }) :=
    load_holding (by decide +kernel)
  obtain ⟨-, -, overlaid⟩ := load_overlays plainLibrary plainLibrary_strict
    (holding "arch: x\nstrides:\n") "sweep.yaml"
  obtain ⟨overlays, anyOrder⟩ := overlaid 1 "!!map" _ [] _ (holds_holding parse_arch_strides) rfl
    accepted
  have reorders : (Yaml.Node.mapping 1 "!!map" [namedArch 1, emptyStrides 2]).Reorders plainLibrary
      (.mapping 1 "!!map" [emptyStrides 1, namedArch 2]) := by
    have swapped : [namedArch 2, emptyStrides 1].Perm [emptyStrides 1, namedArch 2] := .swap ..
    refine .mapping ?_ ?_ swapped (.inl overlays.keys.once)
    · exact .cons .scalar (.cons .scalar .nil)
    · exact .cons .scalar (.cons .scalar .nil)
  exact ⟨(load_overlays plainLibrary plainLibrary_strict (holding "") "sweep.yaml").1
      (holds_holding parse_nothing),
    (load_overlays plainLibrary plainLibrary_strict (holding "q:") "sweep.yaml").2.1 _
      (holds_holding parse_unknown) unknown,
    overlays, anyOrder _ _ _ (holds_holding parse_strides_arch) rfl reorders⟩

theorem parse_null_key : plainLibrary.document (Text.encode "~: 5") =
    .ok (some ⟨.mapping 1 "!!map"
      [(.scalar 1 "!!null" "~" false, .scalar 1 "!!int" "5" false)], []⟩) := by
  cbv

/-- A null key names no field and is accepted with its value. Two keys of a table can denote one
name when they are not written alike, and then their order counts. A value of the wrong type that
is merged in below a key of the mapping itself is not looked at. -/
theorem null_key_accepted :
    (∃ k v, Holds plainLibrary (holding "~: 5") "sweep.yaml"
          (some ⟨.mapping 1 "!!map" [(k, v)], []⟩) ∧
        (Yaml.Node.mapping 1 "!!map" [(k, v)]).isPlain ∧
        (∀ name ∈ fields.names, ¬ Names plainLibrary k (Text.encode name)) ∧
        load plainLibrary (holding "~: 5") "sweep.yaml" = .ok (value standard)) ∧
      load plainLibrary
          (holding "architectures: \x7ba: , !!binary YQ==: \x7bcomputeUnits: 2\x7d\x7d")
          "sweep.yaml" =
        .ok (value
          { standard with architectures := [("a", ⟨"", 2, 0, 0, 0, 0, 0⟩)] }) ∧
      load plainLibrary
          (holding "architectures: \x7b!!binary YQ==: \x7bcomputeUnits: 2\x7d, a: \x7d")
          "sweep.yaml" =
        .ok (value { standard with architectures := [("a", ⟨"", 0, 0, 0, 0, 0, 0⟩)] }) ∧
      load plainLibrary (holding "<<: \x7barch: [1]\x7d\narch: x") "sweep.yaml" =
        .ok (value { standard with arch := "x" }) := by
  refine ⟨⟨_, _, holds_holding parse_null_key, rfl, ?_, ?_⟩, ?_, ?_, ?_⟩
  · intro name _ names
    have null : plainLibrary.isNull (.scalar 1 "!!null" "~" false) = true := rfl
    simp [names.not_isNull] at null
  · exact load_holding (by decide +kernel)
  · exact load_holding (by decide +kernel)
  · exact load_holding (by decide +kernel)
  · exact load_holding (by decide +kernel)

end Instances

end KernelSweep.Config
