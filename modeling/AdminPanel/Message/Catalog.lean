import AdminPanel.Message.Account
import AdminPanel.Message.Management
import AdminPanel.Message.Chat

/-!
# All messages

The messages that are exchanged, each with the type of its values and its layout.
-/

namespace AdminPanel.Message

open Wire (Layout)

/-- A message of some type. -/
structure Declared where
  Carrier : Type
  layout : Layout Carrier

/-- Every message, by layout. -/
def declared : List Declared := [
  ⟨_, Timestamp.layout⟩,
  ⟨_, Duration.layout⟩,
  ⟨_, AuthRequest.layout⟩,
  ⟨_, AuthResponse.layout⟩,
  ⟨_, PingRequest.layout⟩,
  ⟨_, PingResponse.layout⟩,
  ⟨_, TimestampRequest.layout⟩,
  ⟨_, TimestampResponse.layout⟩,
  ⟨_, GetServerInfoRequest.layout⟩,
  ⟨_, ServerVersion.layout⟩,
  ⟨_, GetServerInfoResponse.layout⟩,
  ⟨_, GetIdRequest.layout⟩,
  ⟨_, GetIdResponse.layout⟩,
  ⟨_, SetServerStatusRequest.layout⟩,
  ⟨_, SetServerStatusResponse.layout⟩,
  ⟨_, GetConfigRequest.layout⟩,
  ⟨_, GetConfigResponse.layout⟩,
  ⟨_, SetConfigRequest.layout⟩,
  ⟨_, SetConfigResponse.layout⟩,
  ⟨_, BanUserRequest.layout⟩,
  ⟨_, BanUserResponse.layout⟩,
  ⟨_, UnbanUserRequest.layout⟩,
  ⟨_, UnbanUserResponse.layout⟩,
  ⟨_, DeleteAccountRequest.layout⟩,
  ⟨_, DeleteAccountResponse.layout⟩,
  ⟨_, Announcement.layout⟩,
  ⟨_, PublishAnnouncementRequest.layout⟩,
  ⟨_, PublishAnnouncementResponse.layout⟩,
  ⟨_, GetMonitoringMetricsRequest.layout⟩,
  ⟨_, SystemMetrics.layout⟩,
  ⟨_, MonitoringMetrics.layout⟩,
  ⟨_, GetMonitoringMetricsResponse.layout⟩,
  ⟨_, ListServerRolesRequest.layout⟩,
  ⟨_, ServerRole.layout⟩,
  ⟨_, ListServerRolesResponse.layout⟩,
  ⟨_, GetAccountInfoRequest.layout⟩,
  ⟨_, GetAccountInfoResponse.layout⟩,
  ⟨_, FetchMsgsRequest.layout⟩,
  ⟨_, FetchMsgsResponse.layout⟩]

def declared? (name : String) : Option Declared :=
  declared.find? fun d => d.layout.name == name

end AdminPanel.Message
