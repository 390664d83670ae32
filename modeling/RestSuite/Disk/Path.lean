/-!
# Paths to files

Paths are texts; joining and taking the parent work on the text alone and normalize nothing that
stays.
-/

namespace RestSuite.Path

/-- The path starts at the root. -/
def isAbsolute (path : String) : Bool :=
  path.toList.head? == some '/'

/-- A path below a base directory. An absolute path replaces the base; a slash is put between the
two unless the base is empty or ends in one. -/
def join (base path : String) : String :=
  if isAbsolute path then path
  else if base.isEmpty || base.toList.getLast? == some '/' then base ++ path
  else base ++ "/" ++ path

/-- A path as it is opened: below the base directory, if there is one and the path is relative. -/
def resolve (path : String) (base : Option String) : String :=
  match base with
  | some base => if isAbsolute path then path else join base path
  | none => path

/-- A text cut at every slash. -/
def parts : List Char → List (List Char)
  | [] => [[]]
  | c :: rest =>
    if c = '/' then [] :: parts rest
    else
      match parts rest with
      | [] => [[c]]
      | part :: more => (c :: part) :: more

/-- Parts with slashes between them. -/
def joinParts : List (List Char) → List Char
  | [] => []
  | [part] => part
  | part :: more => part ++ '/' :: joinParts more

/-- Drops, from parts in reverse order, those at the end that name nothing: empty ones and single
points. The first part of a relative path is kept, since a leading point does name the directory. -/
def dropIdle : List (List Char) → List (List Char)
  | [] => []
  | [first] => [first]
  | part :: more => if part = [] ∨ part = ['.'] then dropIdle more else part :: more

/-- The directory that holds what a path names; the root and the empty path have none. -/
def parent? (path : String) : Option String :=
  match dropIdle (parts path.toList).reverse with
  | [] | [[]] => none
  | _ :: rest =>
    match dropIdle rest with
    | [[]] => some "/"
    | kept => some (String.ofList (joinParts kept.reverse))

end RestSuite.Path
