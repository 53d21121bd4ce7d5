import DocStore.Proofs.Search.Running
import DocStore.Proofs.Store.Sources

/-!
# The fields that a document brings along

A lookup puts its array under a name that the document may use itself, and nothing guards against
that: what the document has there is lost. All its other fields are in the result, and the result
has nothing else but the arrays of the joins.
-/
namespace DocStore.Proofs.Search.OwnFields

open Compile Results Running
open Pipeline.Apply (apply_eq)
open Store.Life Store.Sources Store.Watching

/-- The result has every field of the document, with its value. -/
def KeepsFields (document result : Json) : Prop :=
  ∀ name value, document.field? name = some value → result.field? name = some value

/-- What the result has beside the fields of the document are arrays under outputs of joins. -/
def AddsJoined (joins : Joins) (target : CollectionName) (document result : Json) : Prop :=
  ∀ name value, result.field? name = some value → document.field? name = some value ∨
    ∃ join, Kept joins target join ∧ name = target.joinedField join.right ∧
      ∃ found, value = .arr found

/-- What the document has under the output of a join, if anything, is what is joined to it. -/
def HasJoined (session : Session) (joins : Joins) (target : CollectionName) (document : Json) :
    Prop :=
  ∀ join, Kept joins target join → ∀ value,
    document.field? (target.joinedField join.right) = some value →
      value = .arr ((session.documents join.right).filter (belongs join document))

variable {target : CollectionName} {joins : Joins} {join : Join} {session : Session}
variable {document result : Json} {store : Store} {loader : Loader} {cursor : Cursor}
variable {pairs : List (String × String)}

/-- Of the joins into one collection one is kept. -/
theorem exists_kept (h : join ∈ joins) (hleft : join.left = target) :
    ∃ kept, Kept joins target kept ∧ kept.right = join.right := by
  have hsome : (joins.find? fun other => other.left = target ∧ other.right = join.right).isSome :=
    List.find?_isSome.2 ⟨join, h, by simp [hleft]⟩
  obtain ⟨kept, hkept⟩ := Option.isSome_iff_exists.1 hsome
  have hright : kept.right = join.right := by
    have hfound := List.find?_some hkept
    simp only [decide_eq_true_eq] at hfound
    exact hfound.2
  refine ⟨kept, ?_, hright⟩
  rw [Kept, hright]
  exact hkept

/-- A field of the result is the array of a join, or what the document has there. -/
theorem field?_cases (h : Joined belongs session joins target document result) (name : String) :
    (∃ join, Kept joins target join ∧ name = target.joinedField join.right ∧ result.field? name =
      some (.arr ((session.documents join.right).filter (belongs join document)))) ∨
    result.field? name = document.field? name := by
  by_cases houtput : ∃ join ∈ joins, join.left = target ∧ name = target.joinedField join.right
  · obtain ⟨join, hjoin, hleft, rfl⟩ := houtput
    obtain ⟨kept, hkept, hright⟩ := exists_kept hjoin hleft
    -- The output has the name of the collection only, so another join may fill it.
    rw [← hright]
    exact .inl ⟨kept, hkept, rfl, h.filled kept hkept⟩
  · exact .inr (h.kept name fun join hjoin hleft hname => houtput ⟨join, hjoin, hleft, hname⟩)

theorem addsJoined (h : Joined belongs session joins target document result) :
    AddsJoined joins target document result := by
  intro name value hvalue
  rcases field?_cases h name with ⟨join, hkept, hname, hfilled⟩ | hsame
  · rw [hvalue] at hfilled
    exact .inr ⟨join, hkept, hname, _, Option.some.inj hfilled⟩
  · exact .inl (hsame ▸ hvalue)

theorem keepsFields_iff (h : Joined belongs session joins target document result) :
    KeepsFields document result ↔ HasJoined session joins target document := by
  constructor
  · intro hkeeps join hkept value hvalue
    have hresult := hkeeps _ _ hvalue
    rw [h.filled join hkept] at hresult
    exact (Option.some.inj hresult).symm
  · intro hhas name value hvalue
    rcases field?_cases h name with ⟨join, hkept, rfl, hfilled⟩ | hsame
    · rw [hfilled, hhas join hkept value hvalue]
    · rw [hsame, hvalue]

/-- Whatever happens to the store, a result of a search comes from a document that was stored when
it was looked at, and has an array for each join that is kept. Beside what the document has there
are these arrays only. It has all that the document has exactly if no array took the place of
another value. -/
theorem search_keeps_fields_iff (hreachable : Reachable store)
    (hsearch : (Repository.search target (.ofPairs pairs) ⟨store, joins, loader⟩).result =
      .ok cursor) (others : List Cursor) (events : List Event) :
    let watch := (Watch.begun store cursor others).run events
    ∀ result ∈ yielded watch.answers,
      (∃ session ∈ watch.seen, MadeIn target cursor.pipeline result session) ∧
      ∀ session ∈ watch.seen, ∀ document ∈ session.documents target,
        cursor.pipeline.apply session.documents document = some result →
          Joined belongs session joins target document result ∧
          AddsJoined joins target document result ∧
          (KeepsFields document result ↔ HasJoined session joins target document) := by
  intro watch result hresult
  obtain ⟨opening, -, -, -, -, rfl⟩ := search_eq_ok_iff.1 hsearch
  have hempty : (cursorOf target (.ofPairs pairs) joins store opening).buffer = [] := rfl
  have hsourced := (begun_sourced hreachable hempty others).run events
  refine ⟨hsourced.made result (List.mem_append_left _ hresult), ?_⟩
  intro session hsession document hdocument happly
  obtain ⟨store', hreachable', hstore'⟩ := hsourced.seen session hsession
  have hobject := hreachable'.documented hstore' target document hdocument
  have hjoined := @attached_joined session document hobject (.ofPairs pairs) joins target
  rw [apply_eq] at happly
  split at happly
  · rw [← Option.some.inj happly]
    exact ⟨hjoined, addsJoined hjoined, keepsFields_iff hjoined⟩
  · cases happly

/-! ## A user with organizations of its own -/

def one : Json := (DocumentId.int 1).toJson

def employer : Join := ⟨users, "org", organizations, "_id"⟩

/-- A user who has these fields beside an employer. -/
def user (more : List (String × Json)) : Json := .obj (("_id", one) :: ("org", one) :: more)

def staff (more : List (String × Json)) : Store :=
  let withUser := (Store.new.start "db" "first").state.insertMany users [user more]
  (withUser.state.insertMany organizations [.obj [("_id", one)]]).state

def staffSession (more : List (String × Json)) : Session where
  name := "db"
  label := "first"
  number := 1
  collections := [
    ("organizations", ⟨[.obj [("_id", one)]], [.int 1], 1⟩), ("users", ⟨[user more], [.int 1], 1⟩)]

def staffCursor (more : List (String × Json)) : Cursor :=
  cursorOf users .empty [employer] (staff more) (staffSession more)

def attachedOrganization : String × Json :=
  ("users_organizations", .arr [.obj [("_id", one)]])

def ownOrganization : String × Json := ("users_organizations", .str "mine")

theorem staff_reachable (more : List (String × Json)) : Reachable (staff more) :=
  .insertMany _ _ (.insertMany _ _ (.start _ _ (.fresh _ (by decide))))

theorem user_keeps_fields :
    (Repository.search users (.ofPairs []) ⟨staff [], [employer], .standard⟩).result =
      .ok (staffCursor []) ∧
    let watch := (Watch.begun (staff []) (staffCursor []) []).run [.next, .stop, .next]
    watch.seen = [staffSession []] ∧
    yielded watch.answers = [user [attachedOrganization]] ∧
    KeepsFields (user []) (user [attachedOrganization]) := by
  have hsearch : (Repository.search users (.ofPairs []) ⟨staff [], [employer], .standard⟩).result =
      .ok (staffCursor []) :=
    search_eq_ok_iff.2 ⟨staffSession [], by rfl, by decide, by rfl, by rfl, rfl⟩
  have hseen : ((Watch.begun (staff []) (staffCursor []) []).run [.next, .stop, .next]).seen =
      [staffSession []] := by rfl
  have hyielded : yielded ((Watch.begun (staff []) (staffCursor []) []).run
      [.next, .stop, .next]).answers = [user [attachedOrganization]] := by rfl
  obtain ⟨-, hresult⟩ := search_keeps_fields_iff (staff_reachable []) hsearch []
    [.next, .stop, .next] _ (hyielded ▸ List.mem_singleton_self _)
  obtain ⟨-, -, hkeeps⟩ := hresult (staffSession []) (hseen ▸ List.mem_singleton_self _) (user [])
    (List.mem_singleton_self _) (by rfl)
  refine ⟨hsearch, hseen, hyielded, hkeeps.2 ?_⟩
  intro join hkept value hvalue
  obtain rfl : join = employer := by simpa using List.mem_of_find?_eq_some hkept
  have hnone : (user []).field? (users.joinedField employer.right) = none := by decide
  rw [hnone] at hvalue
  cases hvalue

/-- The organization that a user named under the output of the join is lost. -/
theorem own_organization_lost :
    Reachable (staff [ownOrganization]) ∧
    (Repository.search users (.ofPairs [])
      ⟨staff [ownOrganization], [employer], .standard⟩).result =
        .ok (staffCursor [ownOrganization]) ∧
    let watch := (Watch.begun (staff [ownOrganization]) (staffCursor [ownOrganization]) []).run
      [.next]
    watch.seen = [staffSession [ownOrganization]] ∧
    (staffSession [ownOrganization]).documents users = [user [ownOrganization]] ∧
    yielded watch.answers = [user [attachedOrganization]] ∧
    ¬ KeepsFields (user [ownOrganization]) (user [attachedOrganization]) := by
  refine ⟨staff_reachable _, ?_, by rfl, by rfl, by rfl, ?_⟩
  · exact search_eq_ok_iff.2 ⟨staffSession _, by rfl, by decide, by rfl, by rfl, rfl⟩
  · intro hkeeps
    have hlost := hkeeps "users_organizations" (.str "mine") (by decide)
    revert hlost
    decide

end DocStore.Proofs.Search.OwnFields
