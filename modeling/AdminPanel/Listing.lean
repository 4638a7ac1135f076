import AdminPanel.Panel
import AdminPanel.Rpc.Registry
import AdminPanel.Wire.Listing

/-!
# Listings of a panel

How the parts of a panel are listed for whoever debugs it. The session shows nothing of its storage, and all
that is built over it lists it like this: what attaches the token, the guard, and the registry with its four
clients. The transport lists the base address and the prefix, and the router the current page.

A storage lists what it is made of. For a storage in memory these are its items, with the token among them.
-/

namespace AdminPanel

open Storage (Store Place Items)
open Wire (listStruct)

/-- Items between braces. The order in which they are listed is none to rely on; here it is that of their
names. -/
def Storage.Items.listing (items : Items) : String :=
  "\x7b" ++ ", ".intercalate (items.map fun m => Text.quoted m.1 ++ ": " ++ Text.quoted m.2) ++ "\x7d"

/-- A storage in listings, while nobody uses it. One that refuses operations is not made to be listed. -/
def Storage.Place.listing? : Place → Option String
  | .memory items =>
    some (listStruct "MemoryStorage" ["items: " ++ listStruct "RwLock" ["data: " ++ items.listing]])
  | .file path =>
    some (listStruct "FileStorage" ["path: " ++ Text.quoted ("/" ++ "/".intercalate path),
      "write_lock: " ++ listStruct "Mutex" ["data: ()"]])
  | .keychain => some (listStruct "KeyringStorage" [])
  | .refusing .. => none

/-- The session over a storage in listings, which show nothing of the storage. -/
def Session.listing (_ : Store) : String := listStruct "SessionStore" [".."]

/-- What lists a session and nothing else. -/
def Session.listingOfUser (name : String) (s : Store) : String :=
  listStruct name ["session: " ++ Session.listing s]

namespace Rpc

/-- A client in listings. -/
def clientListing (name : String) (t : Transport) : String :=
  listStruct name ["transport: " ++ t.listing]

/-- The clients by the names under which the registry has them. -/
def clients : List (String × String) :=
  [("core", "CoreClient"), ("basic", "BasicClient"), ("server_manage", "ServerManageClient"),
    ("auth", "AuthClient")]

def Registry.listing (r : Registry) : String :=
  listStruct "ClientRegistry" (["session: " ++ Session.listing r.store,
    "transport: " ++ r.transport.listing] ++
      clients.map fun c => c.1 ++ ": " ++ clientListing c.2 r.transport)

end Rpc

/-- Everything that a panel is made of in listings, but its storage: the session, what attaches its token to
calls, the guard, the transport, the clients, the registry, and the router. -/
def Panel.listings (p : Panel) : List String :=
  [Session.listing p.line.store, Session.listingOfUser "AuthInterceptor" p.line.store,
    Session.listingOfUser "NavigationGuard" p.line.store, p.line.transport.listing] ++
  Rpc.clients.map (fun c => Rpc.clientListing c.2 p.line.transport) ++
  [Rpc.Registry.listing ⟨p.line.transport, p.line.store⟩, Navigation.listing p.current]

end AdminPanel
