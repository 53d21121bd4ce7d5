import DocStore.Record.Basic

/-!
# The known record types

The records of a help desk, and two small types with one number each.
-/

namespace DocStore.RecordType

open Record

def user : RecordType :=
  type "User"
    [wholeOrAbsent "_id", text "name", text "alias", wholeOrNull "organization_id", texts "tags"]
    [("organization_id", .null), ("tags", .arr [])]

def organization : RecordType := type "Organization" [whole "_id", text "name"] []

def ticket : RecordType :=
  type "Ticket"
    [text "_id", text "subject", whole "submitter_id", wholeOrNull "organization_id"]
    [("organization_id", .null)]

/-- One number that fits 32 bits without a sign. -/
def strict : RecordType :=
  type "Strict"
    [slot "n" true (return integer (← Json.Reader.integer 0 0xFFFFFFFF "u32"))] []

/-- A negative number can be read, but not written. -/
def refuseNegative (document : Json) : Except RecordFault Json :=
  match document.field? "n" with
  | some (.num (.int n)) => if n.value < 0 then .error (.negative n.value) else .ok document
  | _ => .ok document

def fussy : RecordType :=
  let plain := type "Fussy" [whole "n"] []
  { plain with record := return (← plain.record).bind refuseNegative }

def known : List RecordType := [user, organization, ticket, strict, fussy]

def ofName? (name : String) : Option RecordType := known.find? (·.name = name)

end DocStore.RecordType
