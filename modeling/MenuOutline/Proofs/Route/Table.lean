import MenuOutline.Proofs.Code.Token
import MenuOutline.Site.Route.Printer
import MenuOutline.Text.Scan

namespace MenuOutline.Route

-- A key of the route table, with the path for each language.
structure Row where
  key : String
  paths : List (String × String)
deriving DecidableEq, Repr

-- What stands in a literal between single quotes.
def textOf (inside : List Char) : String :=
  .ofList (Literal.ofSingle inside)

-- The paths that are left of the row being read, if there is one, and the rows after it.
def readRows : Bool → List Code.Token → Option (List (String × String) × List Row)
  | false, .literal '\'' key :: .sign '=' :: .sign '>' :: .sign '[' :: ts => do
    let (paths, rows) ← readRows true ts
    return ([], ⟨textOf key, paths⟩ :: rows)
  | true, .literal '\'' language :: .sign '=' :: .sign '>' :: .literal '\'' path :: .sign ',' ::
      ts => do
    let (paths, rows) ← readRows true ts
    return ((textOf language, textOf path) :: paths, rows)
  | true, .sign ']' :: .sign ',' :: ts => readRows false ts
  | false, [.sign ']', .sign ';', .close] => some ([], [])
  | _, _ => none

-- The rows of a route file, whose header opens the table.
def readFile? (text : String) : Option (List Row) := do
  let body ← Text.after? fileHeader.toList text.toList
  let (_, rows) ← readRows false (Code.tokens body)
  return rows

def literal (s : String) : Code.Token :=
  .literal '\'' (Literal.escape Literal.singleSpecial s.toList)

def pathTokens (path : String × String) : List Code.Token :=
  [literal path.1, .sign '=', .sign '>', literal path.2, .sign ',']

def Row.tokens (row : Row) : List Code.Token :=
  literal row.key :: .sign '=' :: .sign '>' :: .sign '[' ::
    (row.paths.flatMap pathTokens ++ [.sign ']', .sign ','])

-- The paths of a row: one for the first language and one for the second, if there is one.
def pathsIn (l : Languages) (primaryPath : String) (secondaryPath : String → String) :
    List (String × String) :=
  (l.primary, primaryPath) :: l.secondary.toList.map fun language =>
    (language, secondaryPath language)

-- The root of the site in each language.
def rootPaths (l : Languages) : List (String × String) :=
  pathsIn l "/" fun language => "/" ++ language

def slugPaths (l : Languages) (r : Route) : List (String × String) :=
  pathsIn l ("/" ++ r.primarySlug) fun language => "/" ++ language ++ "/" ++ r.secondarySlug

def Row.home (l : Languages) : Row where
  key   := "web"
  paths := rootPaths l

-- The home file is at the root of the site.
def Row.ofRoute (l : Languages) (r : Route) : Row where
  key   := r.primarySlug
  paths := if r.file = "web.php" then rootPaths l else slugPaths l r

theorem map_fst_pathsIn (l : Languages) (primaryPath : String) (secondaryPath : String → String) :
    (pathsIn l primaryPath secondaryPath).map Prod.fst = l.primary :: l.secondary.toList := by
  rw [pathsIn, List.map_cons, List.map_map]
  exact congrArg (l.primary :: ·) <| List.map_id _

variable {ts : List Code.Token} {rows : List Row}

theorem reads_row (l : Languages) (key primaryPath : String) (secondaryPath : String → String) :
    Code.Reads .code (row l key primaryPath secondaryPath).toList .code
      (Row.mk key (pathsIn l primaryPath secondaryPath)).tokens := by
  have h₁ : Code.Reads .code "    ".toList .code [] := by decide +kernel
  have h₂ : Code.Reads .code " => [\n".toList .code [.sign '=', .sign '>', .sign '['] := by
    decide +kernel
  have h₃ : Code.Reads .code "        ".toList .code [] := by decide +kernel
  have h₄ : Code.Reads .code " => ".toList .code [.sign '=', .sign '>'] := by decide +kernel
  have h₅ : Code.Reads .code ",\n".toList .code [.sign ','] := by decide +kernel
  have h₆ : Code.Reads .code "    ],\n".toList .code [.sign ']', .sign ','] := by decide +kernel
  have hs : Code.Reads .code (l.secondary.elim "" fun language =>
      "        " ++ Literal.single language ++ " => " ++ Literal.single (secondaryPath language) ++
        ",\n").toList .code ((l.secondary.toList.map fun language =>
          (language, secondaryPath language)).flatMap pathTokens) := by
    cases l.secondary
    case none => exact .refl _
    case some language =>
      exact (((h₃.appendString <| Code.reads_single language).appendString h₄).appendString <|
        Code.reads_single (secondaryPath language)).appendString h₅
  exact ((((((((h₁.appendString <| Code.reads_single key).appendString h₂).appendString
    h₃).appendString <| Code.reads_single l.primary).appendString h₄).appendString <|
      Code.reads_single primaryPath).appendString h₅).appendString hs).appendString h₆

theorem textOf_escape (s : String) :
    textOf (Literal.escape Literal.singleSpecial s.toList) = s := by
  rw [textOf, Literal.ofSingle_escape, String.ofList_toList]

theorem readRows_flatMap_pathTokens (paths : List (String × String))
    {paths' : List (String × String)} (h : readRows true ts = some (paths', rows)) :
    readRows true (paths.flatMap pathTokens ++ ts) = some (paths ++ paths', rows) := by
  induction paths
  case nil => exact h
  case cons path paths hi =>
    rw [List.flatMap_cons, List.append_assoc]
    simp only [pathTokens, literal, List.cons_append, List.nil_append, readRows, textOf_escape]
    rw [hi]
    rfl

-- The step: one more row in front.
theorem readRows_tokens_append (row : Row) (h : readRows false ts = some ([], rows)) :
    readRows false (row.tokens ++ ts) = some ([], row :: rows) := by
  have he : readRows true (.sign ']' :: .sign ',' :: ts) = some ([], rows) := by
    rw [readRows, h]
  have hp := readRows_flatMap_pathTokens row.paths he
  rw [List.append_nil] at hp
  simp only [Row.tokens, literal, List.cons_append, List.append_assoc, List.nil_append, readRows,
    textOf_escape]
  rw [hp]
  rfl

-- The run: all rows.
theorem readRows_flatMap_tokens (rows' : List Row) (h : readRows false ts = some ([], rows)) :
    readRows false (rows'.flatMap Row.tokens ++ ts) = some ([], rows' ++ rows) := by
  induction rows'
  case nil => exact h
  case cons row rows' hi =>
    rw [List.flatMap_cons, List.append_assoc]
    exact readRows_tokens_append row hi

theorem reads_toRow (l : Languages) (r : Route) :
    Code.Reads .code (toRow l r).toList .code (Row.ofRoute l r).tokens := by
  unfold toRow Row.ofRoute
  by_cases h : r.file = "web.php"
  case pos =>
    have hf : r.file = Slug.homeFile := h
    rw [if_pos h, if_pos hf]
    exact reads_row l ..
  case neg =>
    have hf : r.file ≠ Slug.homeFile := h
    rw [if_neg h, if_neg hf]
    exact reads_row l ..

theorem readFile?_routeFile (l : Languages) (routes : List Route) :
    readFile? (routeFile l routes) = some (.home l :: routes.map (.ofRoute l)) := by
  have hh : Code.Reads .code (homeRow l "web").toList .code (Row.home l).tokens := reads_row l ..
  have hj : Code.Reads .code (String.join (routes.map (toRow l))).toList .code
      (routes.flatMap fun r => (Row.ofRoute l r).tokens) := .join fun r _ => reads_toRow l r
  have he : Code.Reads .code "];\n?>\n".toList .closed [.sign ']', .sign ';', .close] := by
    decide +kernel
  have ht := ((hh.appendString hj).appendString he).tokens_eq
  have ha : Text.after? fileHeader.toList (routeFile l routes).toList =
      some (homeRow l "web" ++ String.join (routes.map (toRow l)) ++ "];\n?>\n").toList := by
    rw [Text.after?_eq_some_iff, ← String.toList_append, ← String.append_assoc,
      ← String.append_assoc]
    rfl
  have hf : readRows false [.sign ']', .sign ';', .close] = some ([], []) := rfl
  have hr := readRows_flatMap_tokens (.home l :: routes.map (.ofRoute l)) hf
  rw [List.flatMap_cons, List.flatMap_map, List.append_nil] at hr
  simp only [readFile?, ha, Option.bind_eq_bind, Option.bind_some, Code.tokens, ht, hr]
  rfl

-- A route file says of every route, in order, where it leads in each language of the site, whatever
-- the slugs and the languages are.
theorem routeFile_reads_back (l : Languages) (routes : List Route) :
    ∃ rows, readFile? (routeFile l routes) = some rows ∧
      rows = ⟨"web", rootPaths l⟩ :: routes.map (fun r =>
        ⟨r.primarySlug, if r.file = "web.php" then rootPaths l else slugPaths l r⟩) ∧
      ∀ row ∈ rows, row.paths.map Prod.fst = l.primary :: l.secondary.toList := by
  refine ⟨_, readFile?_routeFile l routes, rfl, fun row h => ?_⟩
  cases List.mem_cons.mp h
  case inl h => exact h ▸ map_fst_pathsIn l ..
  case inr h =>
    have ⟨r, _, hr⟩ := List.mem_map.mp h
    rw [← hr, Row.ofRoute]
    split
    case isTrue  => exact map_fst_pathsIn l ..
    case isFalse => exact map_fst_pathsIn l ..

end MenuOutline.Route
