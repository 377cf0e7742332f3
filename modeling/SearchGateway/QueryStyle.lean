import SearchGateway.Text.Blank

/-!
# Query styles

The small query languages that an envelope may declare. A declared name counts in any case of its
letters and with white space around it.
-/

namespace SearchGateway

/-- A query language that an envelope may declare. -/
inductive QueryStyle where
  /-- Fields with the values they are to match, joined into one boolean query. -/
  | kinetic
  /-- A query fragment that is passed on. -/
  | solr
  deriving DecidableEq, Repr

namespace QueryStyle

/-- The name of a style. -/
def name : QueryStyle → Text
  | .kinetic => "Kinetic DSL".toList
  | .solr => "Solr DSL".toList

/-- All styles. -/
def all : List QueryStyle :=
  [.kinetic, .solr]

/-- The style with a given name. -/
def ofName? (name : Text) : Option QueryStyle :=
  all.find? fun style => style.name.equalsIgnoringCase name.trim

end QueryStyle

end SearchGateway
