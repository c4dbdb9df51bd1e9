import InfraObserver.Api.Devices
import InfraObserver.Automation.Approval
import InfraObserver.Automation.Attempts
import InfraObserver.Automation.Audit
import InfraObserver.Automation.Completion
import InfraObserver.Automation.Cooldown
import InfraObserver.Automation.DryRun
import InfraObserver.Automation.Expiry
import InfraObserver.Automation.Incident
import InfraObserver.Automation.Lease
import InfraObserver.Automation.Maintenance
import InfraObserver.Automation.Retry
import InfraObserver.Automation.Rollback
import InfraObserver.Automation.Truth
import InfraObserver.Collector.Matching
import InfraObserver.Collector.Scheduler
import InfraObserver.Messaging.Delivery
import InfraObserver.Messaging.Replay
import InfraObserver.Messaging.Shutdown
import InfraObserver.Persistence.Retries
import InfraObserver.Pipeline.Arrival
import InfraObserver.Pipeline.Devices
import InfraObserver.Pipeline.Extent
import InfraObserver.Pipeline.Heartbeat
import InfraObserver.Pipeline.Normalize
import InfraObserver.Pipeline.Rebuild
import InfraObserver.Pipeline.Relay
import InfraObserver.Pipeline.Silence
import InfraObserver.Schema.Keys
import InfraObserver.Scripting.Filters
import InfraObserver.Scripting.Guard
import InfraObserver.Scripting.Idempotency
import InfraObserver.Scripting.Quarantine
import InfraObserver.Scripting.Reload
import InfraObserver.Scripting.Trust
