import AdminPanel.Message.Account
import AdminPanel.Message.Management
import AdminPanel.Message.Chat

/-!
# Methods of the server

The four services and the methods that the panel calls, each with the layouts of what is asked and
of what is answered.
-/

namespace AdminPanel.Rpc

open Wire (Layout)
open Message

/-- The services. -/
inductive Service where
  | core
  | basic
  | management
  | auth
  deriving Repr, DecidableEq

namespace Service

/-- The services in the order in which they are listed. -/
def all : List Service := [core, basic, management, auth]

def name : Service → String
  | .core => "service.ourchat.v1.OurChatService"
  | .basic => "service.basic.v1.BasicService"
  | .management => "service.server_manage.v1.ServerManageService"
  | .auth => "service.auth.v1.AuthService"

end Service

/-- A method of a service, by the layout of what is sent and the layout of what comes back. Its type is that
of the messages, so that a call cannot be made with another method's request. -/
structure Method (Request Response : Type) where
  service : Service
  name : String
  request : Layout Request
  response : Layout Response

namespace Method

/-- Exchanges an account and a password for a token. -/
def auth : Method AuthRequest AuthResponse :=
  ⟨.auth, "Auth", AuthRequest.layout, AuthResponse.layout⟩

def getAccountInfo : Method GetAccountInfoRequest GetAccountInfoResponse :=
  ⟨.core, "GetAccountInfo", GetAccountInfoRequest.layout, GetAccountInfoResponse.layout⟩

/-- Asks for deliveries; the answer is a stream. -/
def fetchMsgs : Method FetchMsgsRequest FetchMsgsResponse :=
  ⟨.core, "FetchMsgs", FetchMsgsRequest.layout, FetchMsgsResponse.layout⟩

def getServerInfo : Method GetServerInfoRequest GetServerInfoResponse :=
  ⟨.basic, "GetServerInfo", GetServerInfoRequest.layout, GetServerInfoResponse.layout⟩

/-- Asks for the time of the server. -/
def timestamp : Method TimestampRequest TimestampResponse :=
  ⟨.basic, "Timestamp", TimestampRequest.layout, TimestampResponse.layout⟩

/-- Asks whether the server answers. -/
def ping : Method PingRequest PingResponse :=
  ⟨.basic, "Ping", PingRequest.layout, PingResponse.layout⟩

/-- Asks for the number of a user. -/
def getId : Method GetIdRequest GetIdResponse :=
  ⟨.basic, "GetId", GetIdRequest.layout, GetIdResponse.layout⟩

/-- Switches the running state. -/
def setServerStatus : Method SetServerStatusRequest SetServerStatusResponse :=
  ⟨.management, "SetServerStatus", SetServerStatusRequest.layout, SetServerStatusResponse.layout⟩

/-- Asks for the configuration. -/
def getConfig : Method GetConfigRequest GetConfigResponse :=
  ⟨.management, "GetConfig", GetConfigRequest.layout, GetConfigResponse.layout⟩

/-- Replaces the configuration. -/
def setConfig : Method SetConfigRequest SetConfigResponse :=
  ⟨.management, "SetConfig", SetConfigRequest.layout, SetConfigResponse.layout⟩

def banUser : Method BanUserRequest BanUserResponse :=
  ⟨.management, "BanUser", BanUserRequest.layout, BanUserResponse.layout⟩

/-- Lifts a ban. -/
def unbanUser : Method UnbanUserRequest UnbanUserResponse :=
  ⟨.management, "UnbanUser", UnbanUserRequest.layout, UnbanUserResponse.layout⟩

def deleteAccount : Method DeleteAccountRequest DeleteAccountResponse :=
  ⟨.management, "DeleteAccount", DeleteAccountRequest.layout, DeleteAccountResponse.layout⟩

def publishAnnouncement : Method PublishAnnouncementRequest PublishAnnouncementResponse :=
  ⟨.management, "PublishAnnouncement", PublishAnnouncementRequest.layout,
    PublishAnnouncementResponse.layout⟩

/-- Asks for measurements. -/
def getMonitoringMetrics : Method GetMonitoringMetricsRequest GetMonitoringMetricsResponse :=
  ⟨.management, "GetMonitoringMetrics", GetMonitoringMetricsRequest.layout,
    GetMonitoringMetricsResponse.layout⟩

def listServerRoles : Method ListServerRolesRequest ListServerRolesResponse :=
  ⟨.management, "ListServerRoles", ListServerRolesRequest.layout, ListServerRolesResponse.layout⟩

end Method

/-- A method of any types. -/
structure AnyMethod where
  Request : Type
  Response : Type
  method : Method Request Response

/-- The methods that the panel calls. The server has more. -/
def methods : List AnyMethod := [
  ⟨_, _, .auth⟩, ⟨_, _, .getAccountInfo⟩, ⟨_, _, .fetchMsgs⟩, ⟨_, _, .getServerInfo⟩,
  ⟨_, _, .timestamp⟩, ⟨_, _, .ping⟩, ⟨_, _, .getId⟩, ⟨_, _, .setServerStatus⟩,
  ⟨_, _, .getConfig⟩, ⟨_, _, .setConfig⟩, ⟨_, _, .banUser⟩, ⟨_, _, .unbanUser⟩,
  ⟨_, _, .deleteAccount⟩, ⟨_, _, .publishAnnouncement⟩, ⟨_, _, .getMonitoringMetrics⟩,
  ⟨_, _, .listServerRoles⟩]

/-- The method of a name. No two services share one. -/
def method? (name : String) : Option AnyMethod :=
  methods.find? fun m => m.method.name == name

end AdminPanel.Rpc
