import Phrasebook.Caller.Refusal
import Phrasebook.Fault
import Phrasebook.Locale.DisplayName
import Phrasebook.Store.Basic
import Phrasebook.Value

/-!
# Errors

Everything that can end an operation on a catalog, by its origin.
-/

namespace Phrasebook

/-- What ended an operation. -/
inductive Error
  | fault (fault : Fault)
  /-- A part that was built by hand violates a condition. -/
  | invalid (condition : Invalid)
  | localeDataAbsent (absence : LocaleDataAbsent)
  | render (error : RenderError)
  /-- A caller is no program. -/
  | caller (refusal : CallerRefusal)
  | write (failure : WriteFailure)
  deriving DecidableEq, Repr

instance : MonadLift (Except Fault) (Except Error) := ⟨fun x => x.mapError .fault⟩

instance : MonadLift (Except Invalid) (Except Error) := ⟨fun x => x.mapError .invalid⟩

instance : MonadLift (Except LocaleDataAbsent) (Except Error) :=
  ⟨fun x => x.mapError .localeDataAbsent⟩

instance : MonadLift (Except RenderError) (Except Error) := ⟨fun x => x.mapError .render⟩

instance : MonadLift (Except CallerRefusal) (Except Error) := ⟨fun x => x.mapError .caller⟩

end Phrasebook
