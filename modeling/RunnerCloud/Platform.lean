import RunnerCloud.Text.Basic

/-!
Contract: the closed vocabularies of the wire models.

Owns:
- `OsType`, `Arch`, `InstanceStatus` and `AddressKind`, each with its spellings;
- `text`, the spelling of a value, `ofText?`, its reader, and `texts`, all spellings in order.

Does not own: messages about values outside a vocabulary.
-/

namespace RunnerCloud

inductive OsType where
  | linux
  | windows
deriving DecidableEq, Repr

namespace OsType

def text : OsType → Text
  | .linux => "linux"
  | .windows => "windows"

def all : List OsType := [.linux, .windows]

def texts : List Text := all.map text

def ofText? (written : Text) : Option OsType :=
  all.find? fun osType => osType.text == written

end OsType

inductive Arch where
  | amd64
  | arm64
  | arm
  | i386
deriving DecidableEq, Repr

namespace Arch

def text : Arch → Text
  | .amd64 => "amd64"
  | .arm64 => "arm64"
  | .arm => "arm"
  | .i386 => "i386"

def all : List Arch := [.amd64, .arm64, .arm, .i386]

def texts : List Text := all.map text

def ofText? (written : Text) : Option Arch :=
  all.find? fun arch => arch.text == written

/-- The name that runner tool archives give the architecture. -/
def toolName : Arch → Text
  | .amd64 => "x64"
  | .arm64 => "arm64"
  | .arm => "arm"
  | .i386 => "x86"

/-- The one architecture on which runners are created. -/
def supported : Arch := .amd64

end Arch

inductive InstanceStatus where
  | running
  | stopped
  | error
  | unknown
  | deleting
deriving DecidableEq, Repr

namespace InstanceStatus

def text : InstanceStatus → Text
  | .running => "running"
  | .stopped => "stopped"
  | .error => "error"
  | .unknown => "unknown"
  | .deleting => "deleting"

def all : List InstanceStatus := [.running, .stopped, .error, .unknown, .deleting]

def texts : List Text := all.map text

def ofText? (written : Text) : Option InstanceStatus :=
  all.find? fun status => status.text == written

end InstanceStatus

inductive AddressKind where
  | external
  | internal
deriving DecidableEq, Repr

namespace AddressKind

def text : AddressKind → Text
  | .external => "public"
  | .internal => "private"

def all : List AddressKind := [.external, .internal]

def texts : List Text := all.map text

def ofText? (written : Text) : Option AddressKind :=
  all.find? fun kind => kind.text == written

end AddressKind

end RunnerCloud
