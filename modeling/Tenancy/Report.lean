import Tenancy.User

/-!
# Reports

How users are printed: one line for each, with the id, the username and a mark for administrators.
-/

namespace Tenancy.Report

def adminMark : String := " (admin)"

def line (r : Record) : String :=
  r.id.text ++ "\t" ++ r.shownName ++ (if r.isAdmin then adminMark else "")

def lines (ls : List String) : String :=
  ls.foldr (fun l text => l ++ "\n" ++ text) ""

def users (rs : List Record) : String :=
  if rs.isEmpty then lines ["no users found"] else lines (rs.map line)

end Tenancy.Report
