import LeafLayout.Command.Help
import LeafLayout.Command.Log
import LeafLayout.Command.Request

/-!
One run of the program from its arguments to its exit status. Failures with single files do not
change the status; only arguments that cannot be understood do.
-/

set_option autoImplicit false

namespace LeafLayout.Command

structure Session where
  status : Nat := 0
  output : List Char := []
  errors : List Char := []
  disk : Disk

def Settings.run (settings : Settings) (filter : Option (List Char)) (disk : Disk) : Session :=
  let job : Job := { style := settings.style, dryRun := settings.dryRun }
  let batch := job.carryOut disk settings.paths
  { output := if settings.dryRun then batch.tally.changed.flatMap (· ++ ['\n']) else []
    errors := log (Filter.choose filter settings.verbose) batch.events
    disk := batch.disk }

def Session.run (filter : Option (List Char)) (arguments : List (List Char)) (disk : Disk) :
    Session :=
  match Request.read arguments with
  | .error error => { status := 2, errors := (error.message ++ "\n").toList, disk }
  | .ok .help => { output := helpText.toList, disk }
  | .ok .version => { output := versionText.toList, disk }
  | .ok (.run settings) => settings.run filter disk

end LeafLayout.Command
