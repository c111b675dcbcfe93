import AlignmentTally.Command.Factors

/-!
# Names in an order that pairs ask for

Pairs of names say which one comes before which other one. The names are written in such an order;
of those that could come next, one that was free earlier goes first. Where names stand in a loop, the
loop is told and one pair of it is left out.
-/

namespace AlignmentTally.Command

open Machine

namespace Precedence

/-- A name with what is known about its place. -/
structure Item where
  /-- The name. -/
  name : Text
  /-- The names that come after it, the last pair first. -/
  later : List Text := []
  /-- The number of pairs that put it after names that were not written yet. -/
  waits : Nat := 0
  /-- Whether it was written. -/
  isWritten : Bool := false

/-- Names in the order of their octets. -/
abbrev Items := List Item

namespace Items

/-- The names with one more name, unless they have it. -/
def add (name : Text) : Items → Items
  | [] => [{ name }]
  | item :: items =>
    if name = item.name then item :: items
    else if Text.before name item.name then { name } :: item :: items
    else item :: add name items

/-- The names with one of them changed. -/
def change (items : Items) (name : Text) (act : Item → Item) : Items :=
  items.map fun item ↦ if item.name = name then act item else item

/-- The names with one more pair. -/
def relate (items : Items) (name after : Text) : Items :=
  let items := (items.add name).add after
  if name = after then items
  else
    (items.change after fun item ↦ { item with waits := item.waits + 1 }).change name
      fun item ↦ { item with later := after :: item.later }

/-- The names of pairs, unless the last pair lacks a name. -/
def ofWords? : List Text → Items → Option Items
  | [], items => some items
  | [_], _ => none
  | name :: after :: rest, items => ofWords? rest (items.relate name after)

end Items

/-- What is told while names are written. -/
inductive Told where
  /-- A name that is next. -/
  | name (text : Text)
  /-- That there is a loop. -/
  | loop
  /-- A name in the loop. -/
  | member (text : Text)

/-- Writes the names that wait for no other one, and those that become free by that, in at most some
rounds. -/
def writeFree : Nat → List Text → Items → List Told → Items × List Told
  | 0, _, items, told => (items, told)
  | _, [], items, told => (items, told)
  | rounds + 1, name :: queue, items, told =>
    let later := ((items.find? (·.name = name)).map Item.later).getD []
    let items := items.change name fun item ↦ { item with isWritten := true }
    let (items, queue) := later.foldl
      (fun (items, queue) name ↦
        let items := items.change name fun item ↦ { item with waits := item.waits - 1 }
        let isFree := items.any fun item ↦ item.name = name && item.waits = 0
        (items, if isFree then queue ++ [name] else queue))
      (items, queue)
    writeFree rounds queue items (.name name :: told)

/-- The search for a loop: a chain of names, each of which comes before the next one. -/
structure Chain where
  /-- The name at the head of the chain. -/
  head : Option Text := none
  /-- The names that follow names in the chain. -/
  links : List (Text × Text) := []

/-- The names from the head of a chain on to a name, at most some of them. -/
def Chain.upTo (chain : Chain) (last : Text) : Nat → Option Text → List Text
  | 0, _ => []
  | _, none => []
  | rounds + 1, some name =>
    if name = last then [name]
    else name :: chain.upTo last rounds (chain.links.lookup name)

/-- Goes through names and lets the chain grow until it is a loop. One pair of the loop is left out
then. -/
def findLoop : List Item → Items → Chain → Items × Chain × Option (List Text)
  | [], items, chain => (items, chain, none)
  | item :: rest, items, chain =>
    if item.waits = 0 then findLoop rest items chain
    else
      match chain.head with
      | none => findLoop rest items { chain with head := some item.name }
      | some head =>
        if ¬ item.later.contains head then findLoop rest items chain
        else if (chain.links.lookup item.name).isNone then
          findLoop rest items
            { head := some item.name, links := (item.name, head) :: chain.links }
        else
          let members := chain.upTo item.name (items.length + 1) (some head)
          let items := items.change head fun other ↦ { other with waits := other.waits - 1 }
          let items := items.change item.name fun item ↦
            { item with later := item.later.erase head }
          (items, {}, some members)

/-- Searches for a loop in at most some rounds. -/
def breakLoop : Nat → Items → Chain → Items × List Text
  | 0, items, _ => (items, [])
  | rounds + 1, items, chain =>
    match findLoop items items chain with
    | (items, _, some members) => (items, members)
    | (items, chain, none) => breakLoop rounds items chain

/-- What is told about names, the last thing first, in at most some rounds. -/
def order : Nat → Items → List Told → List Told
  | 0, _, told => told
  | rounds + 1, items, told =>
    let free := (items.filter fun item ↦ item.waits = 0 && !item.isWritten).map Item.name
    let (items, told) := writeFree (items.length + 1) free items told
    if items.all Item.isWritten then told
    else
      let (items, members) := breakLoop (items.length + 2) items {}
      order rounds items ((members.map Told.member).reverse ++ .loop :: told)

/-- Writes names in an order that the pairs of names in a file ask for. -/
def tsort (arguments : List Text) : Work Unit := do
  let (_, paths) ← Choices.take { letters := "" } arguments
  if let some extra := paths[1]? then Work.misuse ("extra operand " ++ Quoted.word extra) 1
  let path := paths.headD ['-']
  let name := Quoted.name path
  let stream ←
    match ← Work.open_ path with
    | .error error => Work.fail (name ++ ": " ++ error.words) 1
    | .ok stream => pure stream
  let text ←
    match ← Routine.readAll stream with
    | .error error => Work.fail (name ++ ": read error: ".toList ++ error.words.toList) 1
    | .ok text => pure text
  let words := (Text.words Factors.separates text).map fun word ↦ word.takeWhile (· ≠ '\x00')
  match Items.ofWords? words [] with
  | none => Work.fail (name ++ ": input contains an odd number of tokens") 1
  | some items =>
    for told in (order (words.length + 1) items []).reverse do
      match told with
      | .name text => Work.putLine text
      | .loop => Work.complain (name ++ ": input contains a loop:")
      | .member text => Work.complain text

end Precedence

end AlignmentTally.Command
