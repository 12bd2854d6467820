import SquarePool.Feed.Error
import SquarePool.Proofs.Feed.Layouts

/-!
# Sparse and extended pages

The feed leaves out what it does not know and adds what nobody asked for. Main statement: on each of
the four pages a member that no record knows and the order of members play no part, and leaving out
a member that is known puts its default in that one place.
-/

namespace SquarePool

open Feed (TeamsPage ScoreboardPage SchedulePage SummaryPage)

namespace Page

/-- What a page is decoded to. -/
abbrev Content : Page → Type
  | teams => TeamsPage
  | scoreboard => ScoreboardPage
  | schedule => SchedulePage
  | summary => SummaryPage

/-- Decodes a page. -/
def decode : (page : Page) → Json → Option page.Content
  | teams => TeamsPage.decode
  | scoreboard => ScoreboardPage.decode
  | schedule => SchedulePage.decode
  | summary => SummaryPage.decode

/-- How a page stands in documents. -/
def layout : (page : Page) → Layout page.Content
  | teams => TeamsPage.layout
  | scoreboard => ScoreboardPage.layout
  | schedule => SchedulePage.layout
  | summary => SummaryPage.layout

theorem layout_decode (page : Page) : page.layout.decode = page.decode := by
  cases page <;> rfl

/-- **Sparse and extended pages are read.** Take a document that a page is decoded from, and in it
any object that is read as a record. A member with a name that is none of the fields of the record
may be put anywhere into the object, with any value, and the members of any object may be put in any
order: the page stays the same. Without the member of a field the document is still decoded, to a
page that differs in that one field, which has its default: the empty text, zero, false, nothing,
the empty list, or the record of these. -/
theorem sparse_and_extended_documents_are_decoded (page : Page) {json : Json}
    {content : page.Content} (decoded : page.decode json = some content) :
    (∀ path fields, page.layout.shape.Leads json path fields →
      ∀ (i : Nat) (name : String) (value : Json), name ∉ fields.map Prod.fst →
        page.decode (json.modify path (Json.insertMember i name value)) = some content) ∧
    (∀ json', Json.Reordered json json' → page.decode json' = some content) ∧
    ∀ path fields, page.layout.shape.Leads json path fields →
      ∀ name shape, (name, shape) ∈ fields →
        ∃ sparse, page.decode (json.modify path (Json.eraseMember name)) = some sparse ∧
          page.layout.write sparse =
            (page.layout.write content).modify (path ++ [.member name]) (fun _ => shape.blank) ∧
          (page.layout.write sparse).get? (path ++ [.member name]) = some shape.blank := by
  rw [← layout_decode] at decoded ⊢
  refine ⟨?extended, ?reordered, ?sparse⟩
  case extended =>
    intro path fields leads i name value h
    exact page.layout.decode_insertMember decoded leads i value h
  case reordered =>
    intro json' h
    exact page.layout.decode_of_reordered decoded h
  case sparse =>
    intro path fields leads name shape h
    exact page.layout.decode_eraseMember decoded leads h

/-- A scoreboard with one game that is over. A detail that nobody knows is added to the names of
its status, these and the period change places, or it is left out that the game is completed. -/
theorem a_status_is_read_tolerantly :
    let status : List (String × Json) := [("period", .int 4), ("type",
      .ofMembers [("name", .text "STATUS_FINAL"), ("completed", .bool true)])]
    let json (status : List (String × Json)) : Json := .ofMembers [("events", .array
      [.ofMembers [("id", .text "401"), ("status", .ofMembers status)]])]
    let path : List Json.Step := [.member "events", .item 0, .member "status", .member "type"]
    let content : ScoreboardPage := { events := [{ id := "401", status :=
      { period := 4, kind := { name := "STATUS_FINAL", completed := true } } }] }
    scoreboard.decode (json status) = some content ∧
      scoreboard.decode ((json status).modify path
        (Json.insertMember 1 "detail" (.array [.null]))) = some content ∧
      scoreboard.decode (json status.reverse) = some content ∧
      ∃ sparse, scoreboard.decode ((json status).modify path (Json.eraseMember "completed")) =
          some sparse ∧
        scoreboard.layout.write sparse = (scoreboard.layout.write content).modify
          (path ++ [.member "completed"]) (fun _ => .bool false) ∧
        (scoreboard.layout.write sparse).get? (path ++ [.member "completed"]) =
          some (.bool false) := by
  intro status json path content
  have decoded : scoreboard.decode (json status) = some content := by rfl
  have leads : scoreboard.layout.shape.Leads (json status) path
      [("id", .text), ("name", .text), ("state", .text), ("completed", .truth),
        ("description", .text)] :=
    .member (.tail _ (.head _)) (.head _) (.item rfl (.member
      (.tail _ (.tail _ (.tail _ (.tail _ (.tail _ (.tail _ (.tail _ (.head _))))))))
      (.tail _ (.head _)) (.member (.tail _ (.tail _ (.tail _ (.head _)))) (.tail _ (.head _))
        .here)))
  have swapped : Json.Reordered (json status) (json status.reverse) :=
    @Json.Reordered.member [] [] _ _ _ (@Json.Reordered.item [] [] _ _
      (@Json.Reordered.member [(some "id", .text "401")] [] _ _ _ (.object (.swap ..))))
  obtain ⟨extended, reordered, sparse⟩ :=
    scoreboard.sparse_and_extended_documents_are_decoded decoded
  exact ⟨decoded, extended path _ leads 1 "detail" (.array [.null]) (by decide),
    reordered _ swapped,
    sparse path _ leads "completed" .truth (.tail _ (.tail _ (.tail _ (.head _))))⟩

end Page

end SquarePool
