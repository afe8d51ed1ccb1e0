/-!
# Kinds of faults

A fault that is not one of this library's own has a kind: the name of its class. What becomes of it is
decided by the families that the class is in. Every family but three is part of the ordinary faults,
those that a check may fail with; a class may be in several families, or in none.
-/

namespace Checkup

/-- Classes of faults that somebody handles alike. -/
inductive Family where
  | ordinary
  | interrupt
  | programExit
  | system
  | missingFile
  | unresolvedName
  | failedRequest
  | requestTimeout
  | unloadable
  | missingKey
  | endOfInput
  | commandExit
  | commandAbort
  | commandProblem
  | usageProblem
  | own
  | configuration
deriving DecidableEq, Repr

namespace Family

/-- A family and those that it is part of. -/
def lineage : Family → List Family
  | ordinary => [ordinary]
  | interrupt => [interrupt]
  | programExit => [programExit]
  | missingFile => [missingFile, system, ordinary]
  | unresolvedName => [unresolvedName, system, ordinary]
  | requestTimeout => [requestTimeout, failedRequest, ordinary]
  | usageProblem => [usageProblem, commandProblem, ordinary]
  | configuration => [configuration, own, ordinary]
  | family => [family, ordinary]

theorem lineage_closed (family : Family) :
    ∀ above ∈ family.lineage, ∀ other ∈ above.lineage, other ∈ family.lineage := by
  cases family <;> decide

end Family

structure Kind where
  name : String
  families : List Family := [.ordinary]
deriving DecidableEq, Repr

namespace Kind

/-- A fault of this kind is handled by whoever handles the faults of a family. -/
def isA (kind : Kind) (family : Family) : Bool :=
  (kind.families.flatMap Family.lineage).contains family

theorem isA_iff {kind : Kind} {family : Family} :
    kind.isA family = true ↔ ∃ part ∈ kind.families, family ∈ part.lineage := by
  simp [isA]

/-- Who handles the faults of a family handles those of its parts. -/
theorem isA_of_mem_lineage {kind : Kind} {family above : Family} (isA : kind.isA family = true)
    (mem : above ∈ family.lineage) : kind.isA above = true := by
  obtain ⟨part, known, memPart⟩ := isA_iff.mp isA
  exact isA_iff.mpr ⟨part, known, part.lineage_closed family memPart above mem⟩

/-- The classes of the runtime and of its libraries that are not just ordinary, by their families. -/
def known : List (List Family × List String) :=
  [([], ["BaseException", "BaseExceptionGroup", "GeneratorExit"]),
    ([.interrupt], ["KeyboardInterrupt"]),
    ([.programExit], ["SystemExit"]),
    ([.system],
      ["OSError", "IOError", "EnvironmentError", "BlockingIOError", "ChildProcessError",
        "ConnectionError", "BrokenPipeError", "ConnectionAbortedError", "ConnectionRefusedError",
        "ConnectionResetError", "FileExistsError", "InterruptedError", "IsADirectoryError",
        "NotADirectoryError", "PermissionError", "ProcessLookupError", "TimeoutError", "herror",
        "SSLError", "SSLCertVerificationError"]),
    ([.missingFile], ["FileNotFoundError"]),
    ([.unresolvedName], ["gaierror"]),
    ([.failedRequest],
      ["HTTPError", "RequestError", "TransportError", "NetworkError", "ConnectError", "ReadError",
        "WriteError", "CloseError", "ProxyError", "UnsupportedProtocol", "ProtocolError",
        "RemoteProtocolError", "LocalProtocolError", "DecodingError", "TooManyRedirects",
        "HTTPStatusError"]),
    ([.requestTimeout],
      ["TimeoutException", "ConnectTimeout", "ReadTimeout", "WriteTimeout", "PoolTimeout"]),
    ([.unloadable],
      ["ImportError", "ModuleNotFoundError", "PackageNotFoundError", "ZipImportError"]),
    ([.missingKey], ["KeyError"]),
    ([.endOfInput], ["EOFError", "IncompleteReadError"]),
    ([.commandExit], ["Exit"]),
    ([.commandAbort], ["Abort"]),
    ([.commandProblem], ["ClickException", "FileError"]),
    ([.usageProblem],
      ["UsageError", "BadParameter", "MissingParameter", "NoSuchOption", "BadOptionUsage",
        "BadArgumentUsage"])]

/-- The class of a name. One that is not known is an ordinary one. -/
def ofName (name : String) : Kind :=
  { name, families := ((known.find? (·.2.contains name)).map (·.1)).getD [.ordinary] }

instance : Coe String Kind := ⟨ofName⟩

/-- A class with a name of its own is told by its families. -/
example : ({ name := "Halt", families := [] } : Kind).isA .ordinary = false := rfl

example : (ofName "ZipImportError").isA .unloadable = true := by decide

end Kind

end Checkup
