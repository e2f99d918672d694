import KernelSweep.Config.Basic
import KernelSweep.Yaml.Library

set_option autoImplicit false

namespace KernelSweep.Config

open KernelSweep.Yaml (Kind Fields)

def textsKind : Kind := .list "[]string" .text

def suiteKind : Kind :=
  .record "config.Suite" (.ofList [("path", .text), ("kernels", textsKind)])

/-- A file cannot name the name of a profile. -/
def profileKind : Kind :=
  .record "arch.Profile"
    (.ofList [("computeUnits", .int), ("maxActiveThreadsPerCU", .int), ("maxGroupsPerCU", .int),
      ("maxRegsPerCU", .int), ("maxSMemPerCU", .int), ("maxSMemPerBlock", .int)])

def pathsKind : Kind :=
  .record "config.Paths"
    (.ofList [("oclHeader", .text), ("lib", .text), ("preload", .text), ("optimization", .text),
      ("prefix", .text), ("occupancyDir", .text)])

def templatesKind : Kind :=
  .record "config.Templates"
    (.ofList [("compiler", .text), ("clr", .text), ("occupancy", .text)])

def fields : Fields :=
  .ofList
    [("suites", .list "[]config.Suite" suiteKind), ("arch", .text),
      ("architectures", .table "map[string]arch.Profile" profileKind), ("device", .text),
      ("paths", pathsKind), ("templates", templatesKind), ("directions", textsKind),
      ("factors", textsKind), ("strides", textsKind), ("modelFactors", textsKind),
      ("maxCoarseningFactor", .int), ("warpSize", .int), ("cacheLineSize", .int),
      ("timeoutSeconds", .int), ("threadLevelCoarsening", .bool), ("occupancyReduction", .bool)]

def kind : Kind := .record "config.Config" fields

def bytesOf (texts : List String) : List Text.Bytes := texts.map Text.encode

def textsOf (values : List Text.Bytes) : List String := values.map Text.decodeLossy

def suiteValue (s : Suite) : suiteKind.Value := (Text.encode s.path, bytesOf s.kernels, ())

def ofSuiteValue : suiteKind.Value → Suite
  | (path, kernels, ()) => ⟨Text.decodeLossy path, textsOf kernels⟩

def profileValue (p : Profile) : profileKind.Value :=
  (p.computeUnits, p.maxThreads, p.maxGroups, p.maxRegisters, p.maxSharedMemory,
    p.maxBlockMemory, ())

def ofProfileValue : profileKind.Value → Profile
  | (computeUnits, maxThreads, maxGroups, maxRegisters, maxSharedMemory, maxBlockMemory, ()) =>
    ⟨"", computeUnits, maxThreads, maxGroups, maxRegisters, maxSharedMemory, maxBlockMemory⟩

def pathsValue (p : ConfigPaths) : pathsKind.Value :=
  (Text.encode p.header, Text.encode p.library, Text.encode p.preload, Text.encode p.optimization,
    Text.encode p.binaries, Text.encode p.reports, ())

def ofPathsValue : pathsKind.Value → ConfigPaths
  | (header, library, preload, optimization, binaries, reports, ()) =>
    ⟨Text.decodeLossy header, Text.decodeLossy library, Text.decodeLossy preload,
      Text.decodeLossy optimization, Text.decodeLossy binaries, Text.decodeLossy reports⟩

def templatesValue (t : OptionTexts) : templatesKind.Value :=
  (Text.encode t.compiler, Text.encode t.cacheLine, Text.encode t.occupancy, ())

def ofTemplatesValue : templatesKind.Value → OptionTexts
  | (compiler, cacheLine, occupancy, ()) =>
    ⟨Text.decodeLossy compiler, Text.decodeLossy cacheLine, Text.decodeLossy occupancy⟩

def value (c : Config) : kind.Value :=
  (c.suites.map suiteValue, Text.encode c.arch,
    c.architectures.map fun (name, p) => (Text.encode name, profileValue p),
    Text.encode c.device, pathsValue c.paths, templatesValue c.templates, bytesOf c.directions,
    bytesOf c.factors, bytesOf c.strides, bytesOf c.modelFactors, c.maxCoarseningFactor,
    c.warpSize, c.cacheLineSize, c.timeoutSeconds, c.threadLevel, c.occupancyReduction, ())

/-- Bytes that are no text are replaced. -/
def ofValue : kind.Value → Config
  | (suites, arch, architectures, device, paths, templates, directions, factors, strides,
      modelFactors, maxCoarseningFactor, warpSize, cacheLineSize, timeoutSeconds, threadLevel,
      occupancyReduction, ()) =>
    { suites := suites.map ofSuiteValue
      arch := Text.decodeLossy arch
      architectures := architectures.map fun (name, p) => (Text.decodeLossy name, ofProfileValue p)
      device := Text.decodeLossy device
      paths := ofPathsValue paths
      templates := ofTemplatesValue templates
      directions := textsOf directions
      factors := textsOf factors
      strides := textsOf strides
      modelFactors := textsOf modelFactors
      maxCoarseningFactor, warpSize, cacheLineSize, timeoutSeconds, threadLevel
      occupancyReduction }

inductive LoadError where
  | file (e : FileError)
  | decode (path : String) (e : Yaml.Failure)
  deriving DecidableEq, Repr

def LoadError.message : LoadError → String
  | .file e => "read config: " ++ e.message
  | .decode path e => "parse config " ++ path ++ ": " ++ e.message

/-- What a file holds over the default. A file without a document changes nothing. -/
def load (yaml : Yaml.Library) (files : FileSystem) (path : String) :
    Except LoadError kind.Value :=
  match files.read path with
  | .error e => .error (.file e)
  | .ok content =>
    match yaml.decode kind content (value standard) with
    | (v, .ok ()) | (v, .error .empty) => .ok v
    | (_, .error e) => .error (.decode path e)

end KernelSweep.Config
