import DocStore.Load.Loader

/-!
# A recorder of batches

A gateway that keeps what it accepts, batch by batch, and may refuse one call.
-/

namespace DocStore

structure Recorder where
  accepted : List (List Json)
  /-- The number of the call that is refused, where the first call is number one. -/
  refusal : Option Nat

def Recorder.insert : Gateway Recorder := fun _ batch recorder =>
  if recorder.refusal = some (recorder.accepted.length + 1) then
    { result := .error (.writeFailure (.refused "rejected")), lines := [], state := recorder }
  else
    { result := .ok { ids := [], count := batch.length }
      lines := []
      state := { recorder with accepted := recorder.accepted ++ [batch] } }

end DocStore
