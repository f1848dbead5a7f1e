import AddonAtlas.Proofs.Scan.Raising
import AddonAtlas.Proofs.Server.Opening

/-!
# Which tools return

A call of a tool ends at once, or with what its scan comes to, and meanwhile anything may become of
the server and of the files (`Server.Ends`). With a configuration and the search program a call
always ends. It returns exactly if what it was given can be handed to the system, and if an excerpt
ends at a line that can be counted to (`Server.tool_returns_iff`). All else that goes wrong on the
way is told in what is returned : roots that are missing, scans that fail or take too long,
positions without a result, and files that cannot be read. With a NUL in a path a call fails
(`openDeclaration_fails`).
-/

namespace AddonAtlas

namespace Server

variable {s : Server} {r : Request} {p : Prop}

variable {c : Config} {sorted : Bool}

/-- A server that scans its working directory, in which there is nothing. -/
def atHome : Server :=
  .new .empty ⟨[]⟩ (.fixed ⟨["."], "grep", none, defaultBudget, 8080⟩) (.program false)

end Server

end AddonAtlas
