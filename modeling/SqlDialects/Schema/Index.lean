/-! # Indexes -/

namespace SqlDialects

/-- The kinds of index; each dialect has some of them. -/
inductive IndexKind where
  | primary
  | unique
  | normal
  | spatial
  | fullText
  | gist
  | gin
  deriving DecidableEq, Inhabited

/-- The keyword of a kind. -/
def IndexKind.keyword : IndexKind → String
  | primary => "PRIMARY KEY"
  | unique => "UNIQUE"
  | normal => "INDEX"
  | spatial => "SPATIAL"
  | fullText => "FULLTEXT"
  | gist => "GIST"
  | gin => "GIN"

/-- A property that an index is declared with. -/
inductive IndexOption where
  | name (s : String)
  | comment (s : String)
  | algorithm (s : String)

/-- An index over columns of a table. -/
structure Index where
  name : String
  kind : IndexKind
  columns : List String
  algorithm : Option String
  comment : Option String
  deriving DecidableEq, Inhabited

namespace Index

/-- The name of an index that was given none. -/
def defaultName (columns : List String) : String :=
  "_".intercalate ("idx" :: columns)

/-- The last of the options of one sort. -/
def last? (select : IndexOption → Option String) (options : List IndexOption) : Option String :=
  (options.filterMap select).getLast?

/-- Declares an index: of two options of one sort the later one counts, and an empty name counts as none. -/
def declare (kind : IndexKind) (columns : List String) (options : List IndexOption) : Index where
  name :=
    let given := last? (fun | .name s => some s | _ => none) options
    (given.filter (!·.isEmpty)).getD (defaultName columns)
  kind := kind
  columns := columns
  algorithm := last? (fun | .algorithm s => some s | _ => none) options
  comment := last? (fun | .comment s => some s | _ => none) options

end Index
end SqlDialects
