/-!
Lists of named values.

Two ways to give a name a value: `put` keeps the order in which names first appeared, and `putSorted`
keeps a list in ascending order of names. Either way a name that is already there keeps its place and
gets the new value, so no name comes twice.
-/

namespace HookFlow.Ordered

/-- the list with `v` under `k`: in the place that `k` already has, or else at the end -/
def put {α : Type} (k : String) (v : α) : List (String × α) → List (String × α)
  | [] => [(k, v)]
  | e :: rest => if e.1 = k then (k, v) :: rest else e :: put k v rest

/-- the ascending list with `v` under `k` -/
def putSorted {α : Type} (k : String) (v : α) : List (String × α) → List (String × α)
  | [] => [(k, v)]
  | e :: rest =>
    if k < e.1 then (k, v) :: e :: rest
    else if k = e.1 then (k, v) :: rest
    else e :: putSorted k v rest

/-- the list that comes from putting `entries` one by one: repeated names keep the first place and
the last value -/
def ofEntries {α : Type} (entries : List (String × α)) : List (String × α) :=
  entries.foldl (fun acc e => put e.1 e.2 acc) []

end HookFlow.Ordered
