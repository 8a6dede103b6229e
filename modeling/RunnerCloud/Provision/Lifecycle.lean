import RunnerCloud.Cloud.Client

/-!
Contract: what happens to a runner after its creation.

Owns:
- `delete`, `get`, `listPool`, `removeAll`, `stop` and `start`; an instance is identified by its
  name, which is also the name of its resource group.

Does not own: creation; `Provision.Create` does.
-/

namespace RunnerCloud.Provision

open Operation

/-- The log record about a group that was gone before it could be deleted. -/
def alreadyGone (name : Text) (serial : Nat) : LogRecord :=
  { level := LogLevel.debug
    logger := LogRecord.providerLogger
    message := "resource group already gone"
    correlation := .generated serial
    instanceName := .text name
    step := .null
    operation := .text "DeleteInstance"
    exception := none }

/-- Deletes an instance; deleting a missing one succeeds. -/
def delete (name : Text) : Operation Unit :=
  (Cloud.deleteGroup name true).recover fun failure =>
    if failure.category.isWithin .notFound then do
      let serial ← drawSerial
      emit (.logged (alreadyGone name serial))
    else fail failure

def get (name : Text) : Operation RunnerInstance := do
  let machine ← Cloud.getMachine name name
  ofExcept id (RunnerInstance.ofMachine (MachineRecord.ofValue? machine))

/-- The views of all records, or why the first one that has none has none. -/
def viewsOf (machines : List Value) : Except Failure (List RunnerInstance) :=
  machines.mapM fun machine => RunnerInstance.ofMachine (MachineRecord.ofValue? machine)

/-- The instances of a pool, all of them or none. -/
def listPool (poolId : Text) : Operation (List RunnerInstance) := do
  let machines ← Cloud.listMachines poolId
  ofExcept id (viewsOf machines)

/-- The host deletes its instances one by one, so nothing is left to do. -/
def removeAll : Operation Unit :=
  pure ()

def stop (name : Text) : Operation Unit :=
  Cloud.deallocateMachine name name

def start (name : Text) : Operation Unit :=
  Cloud.startMachine name name

end RunnerCloud.Provision
