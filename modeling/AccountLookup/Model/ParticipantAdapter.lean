import AccountLookup.Model.System

/-! `ParticipantAdapter`: the participants as the service asks for them.  The client of the participant
service is a parameter. -/

namespace AccountLookup

/-- `ParticipantsHttpClient`: what it returns for an FSP, or throws. -/
structure ParticipantsHttpClient where
  getParticipantById : (fspId : Js.Str) → Except JsError (Option Participant)

namespace ParticipantAdapter

/-- An error of the client is caught: the participant is then not found. -/
def getParticipantInfo (client : ParticipantsHttpClient) (fspId : Js.Str) :
    Except JsError (Option Participant) :=
  match client.getParticipantById fspId with
  | .ok result => .ok result
  | .error _ => .ok none

end ParticipantAdapter

/-- The environment of a service that asks `client` for its participants. -/
def Environment.asking (env : Environment) (client : ParticipantsHttpClient) : Environment :=
  { env with participants := ParticipantAdapter.getParticipantInfo client }

end AccountLookup
