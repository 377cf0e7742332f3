import SearchGateway.Proofs.Json.RoundTrip
import SearchGateway.Proofs.Template.Quoted
import SearchGateway.Query.Basic

/-!
# Payloads

A payload is a JSON value whose strings are templates. Its text is compact JSON with the tags
written raw inside of the strings, so it need not be JSON itself. Values that are put into it
cannot leave their strings: what results reads as the same tree with the values in the place of
their tags (`readWhole_build_text`).
-/

namespace SearchGateway

/-- A JSON value whose strings are templates. -/
inductive Payload where
  | null
  | bool (value : Bool)
  | integer (value : Int)
  | string (template : Template.Outline)
  | array (items : List Payload)
  | object (members : List (Text × Payload))

namespace Payload

mutual

/-- The compact text of a payload, with literal text escaped and tags as they are. -/
def text : Payload → Text
  | .null => Json.null.text
  | .bool b => (Json.bool b).text
  | .integer i => (Json.number (.integer i)).text
  | .string o => '"' :: (o.escape.text ++ ['"'])
  | .array [] => "[]".toList
  | .array (p :: ps) => '[' :: (p.text ++ itemsText ps ++ [']'])
  | .object [] => ['{', '}']
  | .object ((k, p) :: ms) => '{' :: (Json.quote k ++ ':' :: p.text ++ membersText ms ++ ['}'])

/-- The items behind the first one, each after a comma. -/
def itemsText : List Payload → Text
  | [] => []
  | p :: ps => ',' :: (p.text ++ itemsText ps)

/-- The members behind the first one, each after a comma. -/
def membersText : List (Text × Payload) → Text
  | [] => []
  | (k, p) :: ms => ',' :: (Json.quote k ++ ':' :: p.text ++ membersText ms)

end

mutual

/-- The value that results when each tag gives way to a text for its name. -/
def fill (value : Text → Text) : Payload → Json
  | .null => .null
  | .bool b => .bool b
  | .integer i => .number (.integer i)
  | .string o => .string (o.fill value)
  | .array items => .array (fillItems value items)
  | .object members => .object (fillMembers value members)

/-- The items that result when each tag gives way to a text for its name. -/
def fillItems (value : Text → Text) : List Payload → List Json
  | [] => []
  | p :: ps => fill value p :: fillItems value ps

/-- The members that result when each tag gives way to a text for its name. -/
def fillMembers (value : Text → Text) : List (Text × Payload) → List (Text × Json)
  | [] => []
  | (k, p) :: ms => (k, fill value p) :: fillMembers value ms

end

mutual

/-- The names of all parameters, in order of appearance. -/
def names : Payload → List Text
  | .null | .bool _ | .integer _ => []
  | .string o => o.names
  | .array items => itemsNames items
  | .object members => membersNames members

/-- The names of the parameters of items. -/
def itemsNames : List Payload → List Text
  | [] => []
  | p :: ps => names p ++ itemsNames ps

/-- The names of the parameters of the values of members. -/
def membersNames : List (Text × Payload) → List Text
  | [] => []
  | (_, p) :: ms => names p ++ membersNames ms

end

mutual

/-- Whether a payload has integers that fit into 64 bits only, and objects with distinct keys, in
which no tag begins. -/
def Regular : Payload → Prop
  | .null | .bool _ | .string _ => True
  | .integer i => Json.Fits i
  | .array items => RegularItems items
  | .object members => (members.map Prod.fst).Nodup ∧ RegularMembers members

/-- Whether all items are regular. -/
def RegularItems : List Payload → Prop
  | [] => True
  | p :: ps => Regular p ∧ RegularItems ps

/-- Whether all keys are free of tags and the values of all members are regular. -/
def RegularMembers : List (Text × Payload) → Prop
  | [] => True
  | (k, p) :: ms => Template.TagFree k ∧ Regular p ∧ RegularMembers ms

end

mutual

/-- How many arrays and objects stand around the innermost value, the payload itself included. -/
def nesting : Payload → Nat
  | .null | .bool _ | .integer _ | .string _ => 0
  | .array items => itemsNesting items + 1
  | .object members => membersNesting members + 1

/-- The deepest nesting among items. -/
def itemsNesting : List Payload → Nat
  | [] => 0
  | p :: ps => max (nesting p) (itemsNesting ps)

/-- The deepest nesting among the values of members. -/
def membersNesting : List (Text × Payload) → Nat
  | [] => 0
  | (_, p) :: ms => max (nesting p) (membersNesting ms)

end

variable (value : Text → Text)

/-- Filling keeps the keys. -/
lemma keys_fillMembers (ms : List (Text × Payload)) :
    Entries.keys (fillMembers value ms) = ms.map Prod.fst := by
  induction ms with
  | nil => rfl
  | cons m ms ih =>
    obtain ⟨k, p⟩ := m
    unfold Entries.keys at ih ⊢
    rw [fillMembers, List.map_cons, List.map_cons, ih]

mutual

/-- Filling keeps a payload regular and as deep as it is. -/
lemma regular_fill (p : Payload) (hp : p.Regular) :
    (p.fill value).Regular ∧ (p.fill value).nesting = p.nesting := by
  match p with
  | .null => exact ⟨trivial, rfl⟩
  | .bool _ => exact ⟨trivial, rfl⟩
  | .integer _ => exact ⟨hp, rfl⟩
  | .string _ => exact ⟨trivial, rfl⟩
  | .array items =>
    obtain ⟨hr, hn⟩ := regular_fillItems items hp
    exact ⟨hr, congrArg (· + 1) hn⟩
  | .object members =>
    obtain ⟨hr, hn⟩ := regular_fillMembers members hp.2
    refine ⟨⟨?_, hr⟩, congrArg (· + 1) hn⟩
    rw [keys_fillMembers]
    exact hp.1

/-- Filling keeps items regular and as deep as they are. -/
lemma regular_fillItems (ps : List Payload) (hp : RegularItems ps) :
    Json.RegularItems (fillItems value ps) ∧
      Json.itemsNesting (fillItems value ps) = itemsNesting ps := by
  match ps with
  | [] => exact ⟨trivial, rfl⟩
  | p :: ps =>
    obtain ⟨hr, hn⟩ := regular_fill p hp.1
    obtain ⟨hrs, hns⟩ := regular_fillItems ps hp.2
    exact ⟨⟨hr, hrs⟩, congrArg₂ max hn hns⟩

/-- Filling keeps members regular and as deep as they are. -/
lemma regular_fillMembers (ms : List (Text × Payload)) (hp : RegularMembers ms) :
    Json.RegularMembers (fillMembers value ms) ∧
      Json.membersNesting (fillMembers value ms) = membersNesting ms := by
  match ms with
  | [] => exact ⟨trivial, rfl⟩
  | (_, p) :: ms =>
    obtain ⟨hr, hn⟩ := regular_fill p hp.2.1
    obtain ⟨hrs, hns⟩ := regular_fillMembers ms hp.2.2
    exact ⟨⟨hr, hrs⟩, congrArg₂ max hn hns⟩

end

variable {transformed : Text → Except Error Text}

mutual

/-- The text of a payload gives way to the text of the filled payload. -/
lemma expands_text (p : Payload) (hp : p.Regular)
    (h : ∀ name ∈ p.names, transformed name = .ok (Json.escape (value name))) :
    Template.Expands transformed p.text (p.fill value).text := by
  match p with
  | .null => exact Template.expands_of_no_angle (by decide)
  | .bool b => exact Template.expands_of_no_angle (by cases b <;> decide)
  | .integer i => exact Template.expands_of_no_angle (Json.not_mem_ofInt rfl (by decide) i)
  | .string o =>
    -- Escaping the filled template is filling the escaped one, since the values come in escaped.
    have hnames : ∀ name ∈ o.escape.names, transformed name = .ok (Json.escape (value name)) := by
      rw [o.names_escape]
      exact h
    have hstring := Template.expands_outline o.escape hnames
    rwa [o.fill_escape] at hstring
  | .array [] => exact Template.expands_of_no_angle (by decide)
  | .array (p :: ps) =>
    have hfirst := expands_text p hp.1 fun name hn => h name (List.mem_append_left _ hn)
    have hrest := expands_itemsText ps hp.2 fun name hn => h name (List.mem_append_right _ hn)
    exact (Template.expands_of_no_angle (s := ['[']) (by decide)).append
      ((hfirst.append hrest).append (Template.expands_of_no_angle (s := [']']) (by decide)))
  | .object [] => exact Template.expands_of_no_angle (by decide)
  | .object ((k, p) :: ms) =>
    have hfirst := expands_text p hp.2.2.1 fun name hn => h name (List.mem_append_left _ hn)
    have hrest := expands_membersText ms hp.2.2.2 fun name hn => h name (List.mem_append_right _ hn)
    exact (Template.expands_of_no_angle (s := ['{']) (by decide)).append
      (((hfirst.member hp.2.1).append hrest).append
        (Template.expands_of_no_angle (s := ['}']) (by decide)))

/-- The texts of items give way to the texts of the filled items. -/
lemma expands_itemsText (ps : List Payload) (hp : RegularItems ps)
    (h : ∀ name ∈ itemsNames ps, transformed name = .ok (Json.escape (value name))) :
    Template.Expands transformed (itemsText ps) (Json.itemsText (fillItems value ps)) := by
  match ps with
  | [] => exact Template.expands_of_no_angle (by decide)
  | p :: ps =>
    have hfirst := expands_text p hp.1 fun name hn => h name (List.mem_append_left _ hn)
    have hrest := expands_itemsText ps hp.2 fun name hn => h name (List.mem_append_right _ hn)
    exact (Template.expands_of_no_angle (s := [',']) (by decide)).append (hfirst.append hrest)

/-- The texts of members give way to the texts of the filled members. -/
lemma expands_membersText (ms : List (Text × Payload)) (hp : RegularMembers ms)
    (h : ∀ name ∈ membersNames ms, transformed name = .ok (Json.escape (value name))) :
    Template.Expands transformed (membersText ms) (Json.membersText (fillMembers value ms)) := by
  match ms with
  | [] => exact Template.expands_of_no_angle (by decide)
  | (k, p) :: ms =>
    have hfirst := expands_text p hp.2.1 fun name hn => h name (List.mem_append_left _ hn)
    have hrest := expands_membersText ms hp.2.2 fun name hn => h name (List.mem_append_right _ hn)
    exact (Template.expands_of_no_angle (s := [',']) (by decide)).append
      ((hfirst.member hp.1).append hrest)

end

/-- Substitution into the text of a payload gives the text of the filled payload, and that reads as
the same tree with the escaped values in the place of their tags. -/
theorem readWhole_build_text (p : Payload) (hp : p.Regular) (hd : p.nesting ≤ Json.maxDepth)
    {parameters : Parameters} (hgiven : ∀ name ∈ p.names, (parameters.get? name).isSome) :
    ∃ text, Fragment.build true p.text (some parameters) = .ok text ∧
      Json.readWhole (Json.readValue Json.maxDepth) text =
        .ok (p.fill fun name => Lucene.escape (Template.given parameters name)) := by
  let value := fun name => Lucene.escape (Template.given parameters name)
  obtain ⟨hregular, hnesting⟩ := regular_fill value p hp
  have hexpand := expands_text value p hp (fun name hn =>
    Template.map_valueOf .luceneInJson (hgiven name hn)) []
  rw [List.append_nil, Template.pieces_nil] at hexpand
  have hbuild : Fragment.build true p.text (some parameters) = .ok (p.fill value).text := by
    unfold Fragment.build Template.substitute
    simp only [if_true]
    rw [hexpand]
    simp [Template.expand, Except.map]
  exact ⟨_, hbuild, Json.readWhole_text hregular (hnesting ▸ hd)⟩

/-- A value with a quote and a backslash stays inside of its string. -/
theorem readWhole_build_text_quoted :
    ∃ text, Fragment.build true "\x7b\"query\":[\"f:<%= parameter['p'] %>\",-1]\x7d".toList
        (some [("p".toList, "x\",\\".toList)]) = .ok text ∧
      Json.readWhole (Json.readValue Json.maxDepth) text =
        .ok (.object [("query".toList,
          .array [.string "f:x\\\",\\\\".toList, .number (.integer (-1))])]) := by
  let slot : Template.Slot := ⟨.canonical, ['p'], by decide, by decide⟩
  let leaf : Template.Outline := ⟨⟨"f:".toList, by decide⟩, [(slot, ⟨[], by decide⟩)]⟩
  let p : Payload := .object [("query".toList, .array [.string leaf, .integer (-1)])]
  have hp : p.Regular := ⟨by decide, by decide, ⟨trivial, ⟨by decide, by decide⟩, trivial⟩, trivial⟩
  have hgiven : ∀ name ∈ p.names,
      (Entries.get? name [("p".toList, "x\",\\".toList)]).isSome := by decide
  exact readWhole_build_text p hp (by decide) hgiven

end Payload

end SearchGateway
